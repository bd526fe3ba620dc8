import ClientGen.Text.Blank

/-!
# Status codes

The keys under which responses are declared: a code, a range such as `2XX`, the
word `default`, or anything else.
-/

namespace ClientGen

/-- The key of a response. -/
inductive StatusCode where
  | code (n : Nat)
  /-- All codes with this leading digit. -/
  | range (digit : Nat)
  | default
  | other (text : String)
  deriving DecidableEq, Repr

namespace StatusCode

/-- The value of a decimal digit. -/
def digit? (c : Char) : Option Nat := if c.isDigit then some (c.toNat - '0'.toNat) else none

/-- The number that digits stand for, given what stands in front of them. -/
def numberFrom? (n : Nat) : List Char → Option Nat
  | [] => some n
  | c :: cs => (digit? c).bind fun d => numberFrom? (10 * n + d) cs

/-- A number without a sign, or with a plus sign. -/
def number? : List Char → Option Nat
  | [] => none
  | ['+'] => none
  | '+' :: cs => numberFrom? 0 cs
  | cs => numberFrom? 0 cs

/-- A number of sixteen bits. -/
def code? (cs : List Char) : Option Nat := (number? cs).filter (· < 65536)

/-- A digit and the letter x twice, in any case. -/
def range? : List Char → Option Nat
  | [c, x, y] => if x.toLower = 'x' ∧ y.toLower = 'x' then digit? c else none
  | _ => none

/-- The status code of a key; blanks around it do not count. -/
def ofKey (key : String) : StatusCode :=
  let cs := Text.trimChars key.toList
  if cs.map Char.toLower = "default".toList then .default
  else
    match code? cs, range? cs with
    | some n, _ => .code n
    | none, some d => .range d
    | none, none => .other (String.ofList cs)

/-- Whether the operation succeeded. -/
def isSuccess : StatusCode → Bool
  | code n => 200 ≤ n && n ≤ 299
  | range d => d == 2
  | default => false
  | other _ => false

/-- The code as it is written. -/
def text : StatusCode → String
  | code n => toString n
  | range d => toString d ++ "XX"
  | default => "default"
  | other t => t

end StatusCode

end ClientGen
