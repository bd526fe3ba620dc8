import ClientGen.Data.Literal

/-!
# Literals on several lines

`Literal.pretty` writes a literal as JSON with every item and every member on a line
of its own, indented by two blanks more than what surrounds it.
-/

namespace ClientGen

namespace Literal

/-- Lines between brackets, with commas between them. -/
def bracketed (indent : String) (opening closing : String) (lines : List String) : String :=
  if lines.isEmpty then opening ++ closing
  else
    let inner := "\n" ++ indent ++ "  "
    opening ++ inner ++ ("," ++ inner).intercalate lines ++ "\n" ++ indent ++ closing

mutual

/-- A literal whose last line is indented like `indent`. -/
def prettyAt (indent : String) : Literal → String
  | list items => bracketed indent "[" "]" (prettyItems (indent ++ "  ") items)
  | record members =>
    bracketed indent "\x7b" "\x7d" (prettyMembers (indent ++ "  ") members)
  | l => l.write

/-- The items of a list. -/
def prettyItems (indent : String) : List Literal → List String
  | [] => []
  | item :: items => prettyAt indent item :: prettyItems indent items

/-- The members of a record. -/
def prettyMembers (indent : String) : List (String × Literal) → List String
  | [] => []
  | (key, value) :: members =>
    (quoted key ++ ": " ++ prettyAt indent value) :: prettyMembers indent members

end

/-- A literal on several lines. -/
def pretty (l : Literal) : String := prettyAt "" l

end Literal

end ClientGen
