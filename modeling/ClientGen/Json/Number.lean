import ClientGen.Data.Node
import ClientGen.Decimal.Shortest

/-!
# Numbers

A number is read in two steps: `scanNumber` cuts it into its digits, and
`Spelled.value?` says which value they stand for.  Whole numbers of 64 bits are
integers.  All other numbers are taken from their first digits, as many as fit
into 64 bits, scaled by a power of ten; the scaling is done in floating point, and
a number that leaves its range stands for nothing.
-/

namespace ClientGen.Json

/-- A number by its digits. -/
structure Spelled where
  negative : Bool
  whole : List Char
  /-- The digits behind the point, if there is one. -/
  fraction : Option (List Char)
  /-- Whether the exponent is negative, and its digits, if there is one. -/
  exponent : Option (Bool × List Char)
  deriving DecidableEq, Repr

/-- The value of a decimal digit. -/
def digitValue (c : Char) : Nat := c.toNat - '0'.toNat

/-- The largest number of 64 bits. -/
def maxWord : Nat := twoPow 64 - 1

/-- The number made of as many digits as fit into 64 bits, and the digits that do not. -/
def accumulate (n : Nat) : List Char → Nat × List Char
  | [] => (n, [])
  | c :: cs =>
    let next := n * 10 + digitValue c
    if next > maxWord then (n, c :: cs) else accumulate next cs

/-- A power of ten as a floating-point number. -/
def powerOfTen (n : Nat) : Float := Float.ofScientific 1 false n

/-- A number scaled by a power of ten in steps of at most 308; `tries` bounds the steps. -/
def scaled (x : Float) (exponent : Int) : Nat → Option Float
  | 0 => some x
  | tries + 1 =>
    if exponent.natAbs ≤ 308 then
      if 0 ≤ exponent then
        let y := x * powerOfTen exponent.natAbs
        if y.isInf then none else some y
      else some (x / powerOfTen exponent.natAbs)
    else if x == 0 then some x
    else if 0 ≤ exponent then none
    else scaled (x / powerOfTen 308) (exponent + 308) tries

/-- A number of 64 bits scaled by a power of ten. -/
def ofParts (negative : Bool) (significand : Nat) (exponent : Int) : Option Decimal :=
  (scaled significand.toUInt64.toFloat exponent 8).map fun x =>
    .ofFloat (if negative then -x else x)

/-- The largest exponent that is told apart. -/
def maxExponent : Nat := twoPow 31 - 1

/-- The number of some digits, if it is no larger than the largest exponent. -/
def exponent? (n : Nat) : List Char → Option Nat
  | [] => some n
  | c :: cs =>
    let next := n * 10 + digitValue c
    if next > maxExponent then none else exponent? next cs

/-- The decimal zero. -/
def zero (negative : Bool) : Decimal := ⟨negative, 0, 0⟩

namespace Spelled

/-- The significand and the power of ten in front of the exponent. -/
def significand (s : Spelled) : Nat × Int :=
  let (whole, beyond) := accumulate 0 s.whole
  match s.fraction with
  | none => (whole, beyond.length)
  | some digits =>
    let (n, ignored) := accumulate whole digits
    (n, (beyond.length : Int) - (digits.length - ignored.length : Nat))

/-- The integer a number stands for, if it has 64 bits; minus zero is no integer. -/
def integer? (s : Spelled) : Option Int :=
  match s.fraction, s.exponent, accumulate 0 s.whole with
  | none, none, (n, []) =>
    if !s.negative then some n
    else if 0 < n ∧ n ≤ twoPow 63 then some (-(n : Int))
    else none
  | _, _, _ => none

/-- The decimal a number stands for, if it is in range. -/
def decimal? (s : Spelled) : Option Decimal :=
  let (n, place) := s.significand
  match s.exponent with
  | none => ofParts s.negative n place
  | some (down, digits) =>
    match exponent? 0 digits with
    | some e => ofParts s.negative n (if down then place - e else place + e)
    | none => if n ≠ 0 ∧ !down then none else some (zero s.negative)

/-- The value a number stands for, if it is in range. -/
def value? (s : Spelled) : Option Value :=
  match s.integer? with
  | some n => some (.ofInt n)
  | none => s.decimal?.map fun d => .real (some d)

end Spelled

/-- Where a digit is missing: at the end of the text, or in front of something else. -/
def missingDigit : List Char → Stop
  | [] => ⟨.truncated, .malformed⟩
  | _ :: _ => Fault.malformed.stop

/-- Digits, at least one, and what follows them. -/
def scanDigits (cs : List Char) : Except Stop (List Char × List Char) :=
  match cs.takeWhile Char.isDigit with
  | [] => .error (missingDigit cs)
  | digits => .ok (digits, cs.dropWhile Char.isDigit)

/-- The digits in front of the point; a zero stands alone. -/
def scanWhole : List Char → Except Stop (List Char × List Char)
  | '0' :: cs =>
    if cs.head?.any Char.isDigit then .error Fault.malformed.stop else .ok (['0'], cs)
  | cs => scanDigits cs

/-- The point and the digits behind it, if there is one. -/
def scanFraction : List Char → Except Stop (Option (List Char) × List Char)
  | '.' :: cs => (scanDigits cs).map fun (digits, rest) => (some digits, rest)
  | cs => .ok (none, cs)

/-- The sign of an exponent and its digits. -/
def scanSigned (cs : List Char) : Except Stop (Option (Bool × List Char) × List Char) :=
  let (down, cs) := match cs with
    | '+' :: rest => (false, rest)
    | '-' :: rest => (true, rest)
    | _ => (false, cs)
  (scanDigits cs).map fun (digits, rest) => (some (down, digits), rest)

/-- The exponent, if there is one. -/
def scanExponent : List Char → Except Stop (Option (Bool × List Char) × List Char)
  | 'e' :: cs => scanSigned cs
  | 'E' :: cs => scanSigned cs
  | cs => .ok (none, cs)

/-- A number and what follows it. -/
def scanNumber (cs : List Char) : Except Stop (Spelled × List Char) := do
  let (negative, cs) := match cs with
    | '-' :: rest => (true, rest)
    | _ => (false, cs)
  let (whole, cs) ← scanWhole cs
  let (fraction, cs) ← scanFraction cs
  let (exponent, cs) ← scanExponent cs
  return (⟨negative, whole, fraction, exponent⟩, cs)

/-- The node of a number. -/
def numberNode (s : Spelled) : Node :=
  match s.value? with
  | some v => .scalar { value? := some v }
  | none => .unreadable .malformed none

end ClientGen.Json
