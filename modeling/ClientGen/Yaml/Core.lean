import ClientGen.Data.Node
import ClientGen.Decimal.Nearest
import ClientGen.Yaml.Token

/-!
# What scalars stand for

A scalar without quotes may be a null, a truth value, an integer, a number or a text;
its spelling decides, unless a tag does.  With quotes it is a text.  Where a text is
expected it is one in any case, namely the one that is written.

Integers may be written to the bases two, eight and sixteen.  Digits with a zero in
front are a text.  An integer of more than 64 bits stands for nothing as long as it
has no more than 128; with more bits it is a number.
-/

namespace ClientGen.Yaml

/-- Whether a text is a word for null. -/
def isNullWord (s : String) : Bool := ["null", "Null", "NULL", "~"].contains s

/-- The truth value of a word. -/
def ofBoolWord? (s : String) : Option Bool :=
  if ["true", "True", "TRUE"].contains s then some true
  else if ["false", "False", "FALSE"].contains s then some false
  else none

/-- The number of some digits in a base. -/
def inBase? (base : Nat) (digits : List Char) : Option Nat :=
  if digits.isEmpty then none
  else digits.foldlM (fun n c => do
    let d ← hexValue? c
    if d < base then some (base * n + d) else none) 0

/-- Whether a text is digits with a zero in front. -/
def isPadded : List Char → Bool
  | '0' :: c :: cs => (c :: cs).all Char.isDigit
  | _ => false

/-- The number without a sign that is written in one of the bases. -/
def unsigned? : List Char → Option Nat
  | '0' :: 'x' :: digits => inBase? 16 digits
  | '0' :: 'o' :: digits => inBase? 8 digits
  | '0' :: 'b' :: digits => inBase? 2 digits
  | digits => if isPadded digits then none else inBase? 10 digits

/-- An integer by its amount, or one that is too large. -/
inductive Whole where
  | natural (n : Nat)
  | negative (n : Nat)
  | tooLarge
  deriving DecidableEq, Repr

/-- The value of an integer. -/
def Whole.value? : Whole → Option Value
  | natural n => some (.natural n)
  | negative n => some (.negative n)
  | tooLarge => none

/-- The integer that is written. -/
def whole? : List Char → Option Whole
  | '-' :: cs => do
    let n ← unsigned? cs
    if n ≤ twoPow 63 then some (.negative n)
    else if n ≤ twoPow 127 then some .tooLarge
    else none
  | cs => do
    let n ← unsigned? (match cs with
      | '+' :: rest => rest
      | _ => cs)
    if n < twoPow 64 then some (.natural n)
    else if n < twoPow 128 then some .tooLarge
    else none

/-- Whether a text is a word for infinity or for what is no number. -/
def isSpecialWord (cs : List Char) : Bool :=
  let s := String.ofList cs
  [".inf", ".Inf", ".INF"].contains (String.ofList (Decimal.afterSign cs)) ||
    [".nan", ".NaN", ".NAN"].contains s

/-- The number that is written, in floating point; it must be in range. -/
def real? (cs : List Char) : Option (Option Decimal) :=
  if isSpecialWord cs then some none
  else
    match (Decimal.ofSpelling? cs).bind Decimal.nearest? with
    | some x => some (some x)
    | none => none

/-- The value of a scalar without quotes and without a tag. -/
def plainValue? (s : String) : Option Value :=
  let cs := s.toList
  if s.isEmpty || isNullWord s then some .null
  else
    match ofBoolWord? s, whole? cs with
    | some b, _ => some (.bool b)
    | none, some n => n.value?
    | none, none =>
      if isPadded (Decimal.afterSign cs) then some (.text s)
      else
        match real? cs with
        | some x => some (.real x)
        | none => some (.text s)

/-- The tags of the kinds of scalars. -/
def kindTag (kind : String) : Octets := octetsOf ("tag:yaml.org,2002:" ++ kind)

/-- The octet of an exclamation mark. -/
def mark : UInt8 := 33

/-- Whether a tag starts with a mark, which no common one does. -/
def isMarked (tag : Octets) : Bool := tag.head? == some mark

/-- Whether a tag is not a common one, and what it is called; it has to be a text.  The tag
that is nothing but a mark is called so. -/
def ownTag? (tag : Option Octets) : Option String := do
  let tag ← tag
  if isMarked tag then
    String.fromUTF8? ⟨(if tag.length = 1 then tag else tag.drop 1).toArray⟩
  else none

/-- The value of a scalar with a tag. -/
def taggedValue? (tag : Octets) (style : Style) (s : String) : Option Value :=
  if tag = kindTag "bool" then (ofBoolWord? s).map .bool
  else if tag = kindTag "int" then (whole? s.toList).bind Whole.value?
  else if tag = kindTag "float" then (real? s.toList).map .real
  else if tag = kindTag "null" then if isNullWord s then some .null else none
  else if isMarked tag && style = .plain then plainValue? s
  else some (.text s)

/-- Whether a scalar says that nothing is there; a tag may contradict it. -/
def saysNull? (tag : Option Octets) (style : Style) (s : String) : Option Bool :=
  if style ≠ .plain then some false
  else
    match tag with
    | none => some (s.isEmpty || isNullWord s)
    | some tag =>
      if tag ≠ kindTag "null" then some false
      else if isNullWord s then some true
      else none

/-- What a scalar stands for. -/
def scalarOf (tag : Option Octets) (style : Style) (s : String) : Scalar where
  text? := some s
  bool? :=
    if style = .plain ∨ style = .literal ∧ tag = some (kindTag "bool") then ofBoolWord? s
    else none
  word? :=
    match ownTag? tag with
    | none => some s
    | some name =>
      if style = .plain ∧ (s.isEmpty ∨ isNullWord s) then some name else none
  value? :=
    match tag with
    | some tag => taggedValue? tag style s
    | none => if style = .plain then plainValue? s else some (.text s)
  null? := saysNull? tag style s
  isEmpty := style = .plain && s.isEmpty

end ClientGen.Yaml
