/-!
# Places in a text

A text is a sequence of lines.  Whatever ended a line before, `content?` leaves one
character for it: a line feed, or one of the two separators that are kept as they
are.  A `Cursor` is what is left of a text together with the place where it starts;
lines and columns count from zero.
-/

namespace ClientGen.Yaml

/-- Whether a character may occur in a text at all. -/
def isAllowed (c : Char) : Bool :=
  c == '\t' || c == '\n' || c == '\r' || (' ' ≤ c && c ≤ '~') || c == '\x85' ||
    ('\xa0' ≤ c && c ≤ '\ufffd') || '\ufffd'.toNat + 2 < c.toNat

/-- The text with one character at the end of each line. -/
def normalLines : List Char → List Char
  | [] => []
  | '\r' :: '\n' :: cs => '\n' :: normalLines cs
  | c :: cs => (if c == '\r' || c == '\x85' then '\n' else c) :: normalLines cs

/-- The lines of a text, if all its characters are allowed. -/
def content? (text : String) : Option (List Char) :=
  if text.toList.all isAllowed then some (normalLines text.toList) else none

/-- A blank within a line. -/
def isBlank (c : Char) : Bool := c == ' ' || c == '\t'

/-- The end of a line. -/
def isBreak (c : Char) : Bool := c == '\n' || c == '\u2028' || c == '\u2029'

/-- A letter, digit, dash or underscore. -/
def isWordChar (c : Char) : Bool := c.isAlphanum || c == '-' || c == '_'

/-- Whether a word ends in front of some text. -/
def endsWord : List Char → Bool
  | [] => true
  | c :: _ => isBlank c || isBreak c

/-- Whether a line ends in front of some text. -/
def endsLine : List Char → Bool
  | [] => true
  | c :: _ => isBreak c

/-- Whether a text starts with a mark between documents. -/
def isMarker : List Char → Bool
  | '-' :: '-' :: '-' :: rest => endsWord rest
  | '.' :: '.' :: '.' :: rest => endsWord rest
  | _ => false

/-- A position in a text. -/
structure Position where
  line : Nat := 0
  column : Nat := 0
  /-- How many octets of the line are in front of it. -/
  octet : Nat := 0
  deriving DecidableEq, Repr

/-- The position behind a character. -/
def Position.after (p : Position) (c : Char) : Position :=
  if isBreak c then ⟨p.line + 1, 0, 0⟩ else ⟨p.line, p.column + 1, p.octet + c.utf8Size⟩

/-- What is left of a text, and where it starts. -/
structure Cursor where
  rest : List Char
  place : Position := {}
  deriving DecidableEq, Repr

namespace Cursor

/-- Behind the next `n` characters. -/
def drop (c : Cursor) (n : Nat) : Cursor :=
  ⟨c.rest.drop n, (c.rest.take n).foldl Position.after c.place⟩

/-- Behind the next characters of a kind. -/
def dropWhile (c : Cursor) (p : Char → Bool) : Cursor :=
  ⟨c.rest.dropWhile p, (c.rest.takeWhile p).foldl Position.after c.place⟩

/-- Behind a comment, if there is one. -/
def dropComment (c : Cursor) : Cursor :=
  match c.rest with
  | '#' :: _ => c.dropWhile fun x => !isBreak x
  | _ => c

/-- Behind the end of a line on which there is nothing more than a comment. -/
def endLine? (c : Cursor) : Option Cursor :=
  let c := (c.dropWhile isBlank).dropComment
  if endsLine c.rest then some (c.drop 1) else none

/-- Whether the next line is a mark between documents. -/
def atMarker (c : Cursor) : Bool := c.place.column == 0 && isMarker c.rest

end Cursor

end ClientGen.Yaml
