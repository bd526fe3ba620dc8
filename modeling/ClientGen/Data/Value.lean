import ClientGen.Data.Literal

/-!
# Untyped values

What a document holds before its meaning is decided: scalars that have been told
apart by their spelling, lists, and mappings in the order of the text.  A mapping
may have any value as a key and may have a key more than once; what is made of
that is up to whoever reads the value.
-/

namespace ClientGen

/-- A value without a meaning yet. -/
inductive Value where
  | null
  | bool (b : Bool)
  /-- An integer without a minus sign. -/
  | natural (n : Nat)
  /-- An integer with a minus sign; zero may have one too. -/
  | negative (n : Nat)
  /-- A number that is no integer; nothing for infinities and what is no number. -/
  | real (x : Option Decimal)
  | text (s : String)
  | list (items : List Value)
  | mapping (entries : List (Value × Value))
  deriving Repr, Inhabited

namespace Value

/-- An integer as a value. -/
def ofInt (n : Int) : Value := if n < 0 then negative n.natAbs else natural n.toNat

/-- The text, if the value is one. -/
def text? : Value → Option String
  | text s => some s
  | _ => none

mutual

/-- The value as a literal, if all its keys are texts; the last value of a key counts. -/
def literal? : Value → Option Literal
  | null => some .null
  | bool b => some (.bool b)
  | natural n => some (.integer n)
  | negative n => some (.integer (-(n : Int)))
  | real none => some .null
  | real (some x) => some (.real x)
  | text s => some (.text s)
  | list items => (literals? items).map .list
  | mapping entries => (members? [] entries).map .record

/-- The values as literals. -/
def literals? : List Value → Option (List Literal)
  | [] => some []
  | v :: vs => do
    let l ← literal? v
    let ls ← literals? vs
    some (l :: ls)

/-- The entries as members of a record, put into those collected so far. -/
def members? (members : List (String × Literal)) :
    List (Value × Value) → Option (List (String × Literal))
  | [] => some members
  | (key, v) :: entries => do
    let k ← key.text?
    let l ← literal? v
    members? (Literal.insertMember k l members) entries

end

end Value

end ClientGen
