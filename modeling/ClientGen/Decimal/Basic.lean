/-!
# Decimals and how they are written

A `Decimal` is a signed number of digits scaled by a power of ten.  `text` writes
it as it stands in a document: with a point when the leading digit stands for a
place from the fifth behind the point up to the sixteenth in front of it, and
with an exponent otherwise.  A decimal never looks like an integer: whole numbers
end in `.0`.
-/

namespace ClientGen

/-- A power of two. -/
def twoPow (n : Nat) : Nat := Nat.pow 2 n

/-- A power of ten. -/
def tenPow (n : Nat) : Nat := Nat.pow 10 n

/-- The number `± digits · 10 ^ exponent`. -/
structure Decimal where
  negative : Bool
  digits : Nat
  exponent : Int
  deriving DecidableEq, Repr

namespace Decimal

/-- The decimal digits of a number. -/
def digitChars (n : Nat) : List Char := (toString n).toList

/-- Digits with a point behind the first `places` of them. -/
def pointed (digits : List Char) (places : Nat) : List Char :=
  digits.take places ++ '.' :: digits.drop places

/-- The digits and the exponent of a positive number; `place` is the power of ten
that the leading digit stands for. -/
def magnitudeChars (digits : List Char) (place : Int) : List Char :=
  if place < -5 ∨ 16 ≤ place then
    (match digits with
      | [] => []
      | [d] => [d]
      | d :: more => d :: '.' :: more)
      ++ 'e' :: (if place < 0 then '-' else '+') :: digitChars place.natAbs
  else if place < 0 then
    '0' :: '.' :: (List.replicate (place.natAbs - 1) '0' ++ digits)
  else
    let whole := place.toNat + 1
    if digits.length ≤ whole then
      digits ++ List.replicate (whole - digits.length) '0' ++ ['.', '0']
    else pointed digits whole

/-- The number as it is written in a document. -/
def text (d : Decimal) : String :=
  let body :=
    if d.digits = 0 then ['0', '.', '0']
    else
      let digits := digitChars d.digits
      magnitudeChars digits (d.exponent + digits.length - 1)
  String.ofList (if d.negative then '-' :: body else body)

end Decimal

end ClientGen
