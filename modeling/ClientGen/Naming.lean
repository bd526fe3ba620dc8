import ClientGen.Text.Alphanumeric
import ClientGen.Text.Casing

/-!
# Names in several casings

Tags, schema keys, operation ids and wire names are arbitrary texts.  To become
identifiers they are cut into **words**, and a `Name` keeps the casings that can
be put together from them beside the text itself.

A word is a stretch of alphanumeric characters.  It ends where a lowercase
letter meets an uppercase one, and before the last letter of a run of uppercase
letters that a lowercase one follows, so `XMLHttpRequest2` has the words `XML`,
`Http` and `Request2`.  Digits end no word; they leave open which case came
before.  A text without any alphanumeric character is called `unnamed`.

* `wordsFrom`: the cut, as one pass over the text;
* `Name.ofText`: the casings of a text.
-/

namespace ClientGen

/-- The case of the last cased letter of a word under way. -/
inductive WordCase where
  /-- No cased letter yet. -/
  | none
  | lower
  | upper
  deriving DecidableEq, Repr

namespace WordCase

/-- The case after one more letter; a letter without case changes nothing. -/
def after (m : WordCase) (c : Char) : WordCase :=
  if Text.isLower c then .lower else if Text.isUpper c then .upper else m

end WordCase

namespace Naming

/-- The word under way, kept last letter first, as a list of at most one word. -/
def finished : List Char → List (List Char)
  | [] => []
  | c :: acc => [(c :: acc).reverse]

/-- The words of a text behind a word under way, whose letters are `acc` in reverse. -/
def wordsFrom (m : WordCase) (acc : List Char) : List Char → List (List Char)
  | [] => finished acc
  | c :: rest =>
    if !Text.isAlphanumeric c then finished acc ++ wordsFrom .none [] rest
    else if m.after c == .lower && rest.head?.any Text.isUpper then
      finished (c :: acc) ++ wordsFrom .none [] rest
    else if m == .upper && Text.isUpper c && rest.head?.any Text.isLower then
      finished acc ++ wordsFrom .none [c] rest
    else wordsFrom (m.after c) (c :: acc) rest

/-- The words of a text, or the single word `unnamed`. -/
def words (s : String) : List (List Char) :=
  match wordsFrom .none [] s.toList with
  | [] => ["unnamed".toList]
  | ws => ws

/-- A word in lowercase; a sigma at its end takes the final form. -/
def lowered : List Char → List Char
  | [] => []
  | ['Σ'] => ['ς']
  | c :: rest => Text.lower c ++ lowered rest

/-- A word in uppercase. -/
def uppered (word : List Char) : List Char := word.flatMap Text.upper

/-- A word with its first letter in uppercase and the others in lowercase. -/
def capitalized : List Char → List Char
  | [] => []
  | c :: rest => Text.upper c ++ lowered rest

/-- The words with an underscore between neighbours. -/
def underscored (ws : List (List Char)) : String := String.ofList (List.intercalate ['_'] ws)

/-- The capitalized words side by side. -/
def pascal (ws : List (List Char)) : String := String.ofList (ws.flatMap capitalized)

/-- As `pascal`, with the first word in lowercase. -/
def camel : List (List Char) → String
  | [] => ""
  | w :: ws => String.ofList (lowered w ++ ws.flatMap capitalized)

end Naming

/-- A text and the identifiers made from its words. -/
structure Name where
  /-- The text as it was given. -/
  text : String
  /-- As in `PetStore`. -/
  pascal : String
  /-- As in `petStore`. -/
  camel : String
  /-- As in `pet_store`. -/
  snake : String
  /-- As in `PET_STORE`. -/
  screaming : String
  deriving DecidableEq, Repr

/-- The name of a text. -/
def Name.ofText (s : String) : Name :=
  let ws := Naming.words s
  { text := s
    pascal := Naming.pascal ws
    camel := Naming.camel ws
    snake := Naming.underscored (ws.map Naming.lowered)
    screaming := Naming.underscored (ws.map Naming.uppered) }

end ClientGen
