import ClientGen.Decimal.Basic

/-!
# The fewest digits that read back

A binary floating-point number is `mantissa · 2 ^ scale`, and all reals nearer to
it than to its neighbours read as that number; the two reals half way to a
neighbour do when the mantissa is even.  `Binary.shortest` searches the decimals
with one digit, two digits and so on for one in that interval.  Of two with the
same number of digits it takes the nearer one, and on a tie the one whose last
digit is even.  Seventeen digits always suffice.

All comparisons are between natural numbers.
-/

namespace ClientGen

/-- The number `mantissa · 2 ^ scale`. -/
structure Binary where
  mantissa : Nat
  scale : Int
  /-- The neighbour below is half as far as the neighbour above. -/
  nearBelow : Bool
  deriving DecidableEq, Repr

namespace Binary

/-- The finite number with the given bits, its sign aside. -/
def ofBits (bits : Nat) : Binary :=
  let fraction := bits % twoPow 52
  let field : Nat := bits / twoPow 52 % 2048
  if field = 0 then ⟨fraction, -1074, false⟩
  else ⟨twoPow 52 + fraction, (field : Int) - 1075, fraction = 0 ∧ field ≠ 1⟩

/-- The numbers `quarters · 2 ^ (scale - 2)` and `count · 10 ^ place` as whole numbers of
one unit. -/
def common (quarters : Nat) (scale : Int) (count : Nat) (place : Int) : Nat × Nat :=
  (quarters * twoPow (scale - 2).toNat * tenPow (-place).toNat,
   count * tenPow place.toNat * twoPow (2 - scale).toNat)

/-- Whether `count · 10 ^ place` reads as the number. -/
def readsBack (b : Binary) (count : Nat) (place : Int) : Bool :=
  let low := common (4 * b.mantissa - if b.nearBelow then 1 else 2) b.scale count place
  let high := common (4 * b.mantissa + 2) b.scale count place
  if b.mantissa % 2 = 0 then low.1 ≤ low.2 && high.2 ≤ high.1
  else low.1 < low.2 && high.2 < high.1

/-- The nearer of two neighbouring decimals, the even one if both are as near. -/
def nearer (b : Binary) (count : Nat) (place : Int) : Nat :=
  let middle := common (8 * b.mantissa) b.scale (2 * count + 1) place
  if middle.1 < middle.2 then count
  else if middle.2 < middle.1 then count + 1
  else if count % 2 = 0 then count else count + 1

/-- The best decimal that is a multiple of `10 ^ place`, if one reads back. -/
def onGrid? (b : Binary) (place : Int) : Option Nat :=
  let unit := common (4 * b.mantissa) b.scale 1 place
  let below := unit.1 / unit.2
  match b.readsBack below place, b.readsBack (below + 1) place with
  | true, true => some (b.nearer below place)
  | true, false => some below
  | false, true => some (below + 1)
  | false, false => none

/-- The power of ten that the leading digit of a positive number stands for. -/
def leadingPlace (b : Binary) : Int :=
  let shift : Nat := 400
  let scaled := b.mantissa * tenPow shift * twoPow b.scale.toNat / twoPow (-b.scale).toNat
  ((toString scaled).length : Int) - 1 - shift

/-- Moves trailing zeros from the digits into the exponent; `tries` bounds their number. -/
def stripZeros (count : Nat) (place : Int) : Nat → Nat × Int
  | 0 => (count, place)
  | tries + 1 =>
    if count % 10 = 0 then stripZeros (count / 10) (place + 1) tries else (count, place)

/-- The digits and the exponent of the shortest decimal of a number. -/
def shortest (b : Binary) : Nat × Int :=
  if b.mantissa = 0 then (0, 0)
  else
    let lead := b.leadingPlace
    let found := (List.range 17).findSome? fun (more : Nat) =>
      let place := lead - (more : Int)
      (b.onGrid? place).map fun count => (count, place)
    match found with
    | some (count, place) => stripZeros count place 20
    | none => (b.mantissa * Nat.pow 5 (-b.scale).toNat * twoPow b.scale.toNat, min b.scale 0)

end Binary

/-- The shortest decimal that reads as a finite floating-point number. -/
def Decimal.ofFloat (x : Float) : Decimal :=
  let bits := x.toBits.toNat
  let (digits, exponent) := (Binary.ofBits bits).shortest
  ⟨bits / twoPow 63 = 1, digits, exponent⟩

end ClientGen
