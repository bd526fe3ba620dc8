import ClientGen.Decimal.Shortest
import ClientGen.Decimal.Spelling

/-!
# The nearest floating-point number

A decimal may have more digits than a binary floating-point number can tell apart.
`nearest?` takes it to the number that is nearest to it, and of two that are as near
to the one with the even mantissa, which it writes with the fewest digits.  Nothing
is nearest to a decimal that is too large.

All computation is on quotients of natural numbers, so nothing is rounded twice.
-/

namespace ClientGen

/-- A quotient as the nearest natural number; a half goes to the even neighbour. -/
def roundQuotient (n d : Nat) : Nat :=
  let q := n / d
  let twice := 2 * (n % d)
  if twice < d then q else if d < twice then q + 1 else q + q % 2

/-- The largest power of two that does not exceed a positive quotient. -/
def floorLog (n d : Nat) : Int :=
  let guess : Int := (Nat.log2 n : Int) - Nat.log2 d
  if d * twoPow guess.toNat ≤ n * twoPow (-guess).toNat then guess else guess - 1

namespace Binary

/-- The number nearest to a quotient, if it is in range. -/
def ofQuotient? (n d : Nat) : Option Binary :=
  if n = 0 then some ⟨0, -1074, false⟩
  else
    let scale := max (floorLog n d - 52) (-1074)
    let rounded := roundQuotient (n * twoPow (-scale).toNat) (d * twoPow scale.toNat)
    let (mantissa, scale) :=
      if rounded = twoPow 53 then (twoPow 52, scale + 1) else (rounded, scale)
    if 971 < scale then none
    else some ⟨mantissa, scale, mantissa = twoPow 52 ∧ scale ≠ -1074⟩

end Binary

namespace Decimal

/-- The number that some decimal digits stand for. -/
def numberOf (digits : List Char) : Nat :=
  digits.foldl (fun n c => 10 * n + (c.toNat - '0'.toNat)) 0

/-- The number that an exponent stands for, with its mark and sign. -/
def exponentOf : List Char → Int
  | _ :: '-' :: digits => -(numberOf digits : Int)
  | _ :: '+' :: digits => numberOf digits
  | _ :: digits => numberOf digits
  | [] => 0

/-- The decimal that is spelled, all digits kept; words are no decimals. -/
def ofSpelling? (cs : List Char) : Option Decimal :=
  let body := afterSign cs
  if isUnsigned body then
    let whole := body.takeWhile Char.isDigit
    let (fraction, rest) := match body.dropWhile Char.isDigit with
      | '.' :: more => (more.takeWhile Char.isDigit, more.dropWhile Char.isDigit)
      | more => ([], more)
    some ⟨cs.head? == some '-', numberOf (whole ++ fraction),
      exponentOf rest - (fraction.length : Int)⟩
  else none

/-- The floating-point number nearest to a decimal, if it is in range. -/
def nearest? (x : Decimal) : Option Decimal :=
  let place : Int := x.exponent + (digitChars x.digits).length - 1
  if x.digits = 0 ∨ place < -330 then some ⟨x.negative, 0, 0⟩
  else if 310 < place then none
  else
    let n := x.digits * tenPow x.exponent.toNat
    let d := tenPow (-x.exponent).toNat
    (Binary.ofQuotient? n d).map fun b =>
      let (digits, exponent) := b.shortest
      ⟨x.negative, digits, exponent⟩

end Decimal

end ClientGen
