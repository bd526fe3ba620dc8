/-!
# Spellings of numbers

A text spells a number if it is an optional sign and then either a word for
infinity or for what is no number, in any case, or digits with at most one point
among them and an optional exponent.  Digits may be missing on one side of the
point, not on both.
-/

namespace ClientGen.Decimal

/-- The text behind a sign, if there is one. -/
def afterSign : List Char → List Char
  | '+' :: cs => cs
  | '-' :: cs => cs
  | cs => cs

/-- Whether a text is one or more digits. -/
def isDigits (cs : List Char) : Bool := !cs.isEmpty && cs.all Char.isDigit

/-- Whether a text is nothing, or an exponent with its mark. -/
def isExponent : List Char → Bool
  | [] => true
  | c :: cs => (c == 'e' || c == 'E') && isDigits (afterSign cs)

/-- Whether a text is digits, with at most one point, and an optional exponent. -/
def isUnsigned (cs : List Char) : Bool :=
  let whole := cs.takeWhile Char.isDigit
  match cs.dropWhile Char.isDigit with
  | '.' :: rest =>
    let fraction := rest.takeWhile Char.isDigit
    !(whole.isEmpty && fraction.isEmpty) && isExponent (rest.dropWhile Char.isDigit)
  | rest => !whole.isEmpty && isExponent rest

/-- Whether a text is a word for infinity or for what is no number. -/
def isSpecial (cs : List Char) : Bool :=
  let w := String.ofList (cs.map Char.toLower)
  w == "inf" || w == "infinity" || w == "nan"

/-- Whether a text spells a number. -/
def isSpelling (cs : List Char) : Bool :=
  let body := afterSign cs
  isSpecial body || isUnsigned body

end ClientGen.Decimal
