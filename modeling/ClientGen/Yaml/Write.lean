import ClientGen.Data.Literal
import ClientGen.Yaml.Core

/-!
# Literals in YAML

`write` writes a literal as blocks.  A text stands without quotes if it is a text when
it is read back and nothing in it could be taken for an indicator.  A text with line
feeds becomes a literal block unless a line of it could not be seen as it is; a text
with such characters stands between double quotes.  The items of a list are not
indented under the key of the list.

Line feeds are not all that ends a line: there are two separators that do so too and are
written as they are.  So a `Line` knows what it ends with.
-/

namespace ClientGen.Yaml

/-- Whether a text without quotes would be something else. -/
def isAmbiguous (s : String) : Bool :=
  isPadded (Decimal.afterSign s.toList) ||
    match plainValue? s with
    | some (.text _) => false
    | _ => true

/-- Whether a character can be seen as it is. -/
def isVisible (c : Char) : Bool :=
  c == '\n' || (' ' ≤ c && c ≤ '~') || ('\xa0' ≤ c && c ≤ '\ufffd' && c != '\ufeff') ||
    '\ufffd'.toNat + 2 < c.toNat

/-- The ends of lines, whatever they are. -/
def isAnyBreak (c : Char) : Bool := isBreak c || c == '\r' || c == '\x85'

/-- Whether a word ends in front of some text, as far as it is written. -/
def endsWritten : List Char → Bool
  | [] => true
  | c :: _ => isBlank c || isAnyBreak c

/-- Whether an indicator starts a text. -/
def startsIndicator : List Char → Bool
  | [] => false
  | c :: rest =>
    "#,[]\x7b\x7d&*!|>'\"%@\x60".toList.contains c ||
      ("?:-".toList.contains c && endsWritten rest)

/-- Whether an indicator stands within a text; `afterBlank` says what stands in front. -/
def holdsIndicator (afterBlank : Bool) : List Char → Bool
  | [] => false
  | c :: rest =>
    (c == ':' && endsWritten rest) || (c == '#' && afterBlank) ||
      holdsIndicator (isBlank c || isAnyBreak c) rest

/-- Whether a text could be taken for a mark between documents or for an indicator. -/
def hasIndicator (cs : List Char) : Bool :=
  ["---", "..."].contains (String.ofList (cs.take 3)) || startsIndicator cs ||
    match cs with
    | [] => false
    | c :: rest => holdsIndicator (isBlank c || isAnyBreak c) rest

/-- Whether one of two characters follows the other somewhere. -/
def follows (p q : Char → Bool) (cs : List Char) : Bool :=
  (cs.zip (cs.drop 1)).any fun (a, b) => p a && q b

/-- Whether a character is a space. -/
def isSpaceChar (c : Char) : Bool := c == ' '

/-- Whether a text has to stand between double quotes, whatever its style. -/
def needsEscapes (cs : List Char) : Bool :=
  cs.any (fun c => !isVisible c) || follows isSpaceChar isAnyBreak cs

/-- How a text is written. -/
inductive TextStyle where
  | plain
  | single
  | double
  | block
  deriving DecidableEq, Repr

/-- How a text is written where it may take several lines. -/
def textStyle (s : String) : TextStyle :=
  let cs := s.toList
  let last := cs.getLast?
  if needsEscapes cs then .double
  else if cs.contains '\n' then
    if last.any isSpaceChar then .double else .block
  else if follows isAnyBreak isSpaceChar cs then .double
  else if isAmbiguous s || hasIndicator cs || cs.any isAnyBreak || cs.head?.any isSpaceChar ||
    last.any isSpaceChar then .single
  else .plain

/-- A hexadecimal digit in capitals. -/
def capitalHexDigit (n : Nat) : Char := (Nat.digitChar (n % 16)).toUpper

/-- A code with a number of digits. -/
def hexCode (n : Nat) : Nat → List Char
  | 0 => []
  | digits + 1 => hexCode (n / 16) digits ++ [capitalHexDigit n]

/-- The letter for a character behind a backslash. -/
def escapeLetter? (c : Char) : Option Char :=
  "0abtnvfre\"\\N_LP".toList.find? fun letter => escaped? letter == some c

/-- A character between double quotes. -/
def doubleChar (c : Char) : List Char :=
  if isVisible c && !isAnyBreak c && c != '"' && c != '\\' then [c]
  else
    match escapeLetter? c with
    | some letter => ['\\', letter]
    | none =>
      if c.toNat < 256 then '\\' :: 'x' :: hexCode c.toNat 2
      else if c.toNat < 65536 then '\\' :: 'u' :: hexCode c.toNat 4
      else '\\' :: 'U' :: hexCode c.toNat 8

/-- A text between double quotes. -/
def doubleQuoted (s : String) : String :=
  String.ofList ('"' :: (s.toList.flatMap doubleChar ++ ['"']))

/-- A line and what it ends with. -/
structure Line where
  text : String
  ending : Char := '\n'
  deriving DecidableEq, Repr

/-- The line as it is written. -/
def Line.write (l : Line) : String := l.text.push l.ending

/-- The lines of a text, given the start of the first one, which is backwards; a line feed
ends the last one if nothing else does. -/
def splitLines (start : List Char) : List Char → List Line
  | [] => if start.isEmpty then [] else [⟨String.ofList start.reverse, '\n'⟩]
  | c :: cs =>
    if isAnyBreak c then ⟨String.ofList start.reverse, c⟩ :: splitLines [] cs
    else splitLines (c :: start) cs

/-- The lines of a text. -/
def textLines (s : String) : List Line := splitLines [] s.toList

/-- A text between single quotes. -/
def singleQuoted (s : String) : String :=
  String.ofList ('\'' :: (s.toList.flatMap (fun c => if c = '\'' then ['\'', '\''] else [c])
    ++ ['\'']))

/-- The line with something in front. -/
def Line.behind (start : String) (l : Line) : Line := { l with text := start ++ l.text }

/-- Lines that are indented by two blanks, unless they are empty. -/
def indented (lines : List Line) : List Line :=
  lines.map fun l => if l.text.isEmpty then l else l.behind "  "

/-- Lines of which all but the first are indented. -/
def nested : List Line → List Line
  | [] => []
  | line :: lines => line :: indented lines

/-- The mark of a block with all that is said behind it. -/
def blockMark (s : String) : String :=
  let cs := s.toList
  let hint := if cs.head?.any fun c => c == ' ' || isAnyBreak c then "2" else ""
  let chomping := match cs.reverse with
    | [] => "-"
    | [c] => if isAnyBreak c then "+" else "-"
    | c :: d :: _ => if !isAnyBreak c then "-" else if isAnyBreak d then "+" else ""
  "|" ++ hint ++ chomping

/-- A text as lines; all lines but the first belong to what surrounds it. -/
def textBlock (s : String) : List Line :=
  match textStyle s with
  | .plain => [⟨s, '\n'⟩]
  | .single => nested (textLines (singleQuoted s))
  | .double => [⟨doubleQuoted s, '\n'⟩]
  | .block => ⟨blockMark s, '\n'⟩ :: indented (textLines s)

/-- A text on one line. -/
def keyText (s : String) : String :=
  if s.any isAnyBreak then doubleQuoted s
  else
    match textStyle s with
    | .plain => s
    | .single => singleQuoted s
    | .double => doubleQuoted s
    | .block => doubleQuoted s

/-- Lines behind something that stands on the first one. -/
def behind (start : String) : List Line → List Line
  | [] => [⟨start, '\n'⟩]
  | line :: lines => line.behind start :: lines

mutual

/-- The lines of a literal. -/
def lines : Literal → List Line
  | .text s => textBlock s
  | .list [] => [⟨"[]", '\n'⟩]
  | .list items => itemLines items
  | .record [] => [⟨"\x7b\x7d", '\n'⟩]
  | .record members => memberLines members
  | l => [⟨l.write, '\n'⟩]

/-- The lines of the items of a list. -/
def itemLines : List Literal → List Line
  | [] => []
  | item :: items =>
    let here := match item with
      | .list (_ :: _) => nested (lines item)
      | .record (_ :: _) => nested (lines item)
      | _ => lines item
    behind "- " here ++ itemLines items

/-- The lines of the members of a record. -/
def memberLines : List (String × Literal) → List Line
  | [] => []
  | (key, value) :: members =>
    let mark := keyText key ++ ":"
    let here := match value with
      | .list (_ :: _) => ⟨mark, '\n'⟩ :: lines value
      | .record (_ :: _) => ⟨mark, '\n'⟩ :: indented (lines value)
      | _ => behind (mark ++ " ") (lines value)
    here ++ memberLines members

end

/-- A literal as a text. -/
def write (l : Literal) : String := String.join ((lines l).map Line.write)

end ClientGen.Yaml
