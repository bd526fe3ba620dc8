import ClientGen.Naming

/-!
# Kotlin identifiers, strings and comment text

What a text must look like before it may stand in a Kotlin source.

* `escapeIdentifier`: a name that Kotlin reads as one identifier.  Plain names
  that are no hard keyword stay; everything else goes between backticks, and the
  characters that are refused even there become underscores.
* `escapeString` and `stringLiteral`: the inside of a double-quoted string and
  the whole literal.
* `commentText`: text that neither opens nor closes a block comment.  Kotlin's
  block comments nest, so both delimiters have to go; the slash of each becomes
  the character reference `&#47;`.
-/

namespace ClientGen.Kotlin

/-- The words that Kotlin never reads as a plain identifier. -/
def hardKeywords : List String :=
  ["as", "break", "class", "continue", "do", "else", "false", "for", "fun", "if", "in",
   "interface", "is", "null", "object", "package", "return", "super", "this", "throw",
   "true", "try", "typealias", "typeof", "val", "var", "when", "while"]

/-- The characters that may not occur in a name, not even between backticks. -/
def forbiddenChars : List Char := ['.', ';', '[', ']', '/', '<', '>', ':', '\\', '\x60']

/-- A character that may start a plain identifier. -/
def isIdentifierStart (c : Char) : Bool := c.isAlpha || c == '_'

/-- A character that may continue a plain identifier. -/
def isIdentifierPart (c : Char) : Bool := c.isAlphanum || c == '_'

/-- An ASCII letter or underscore, then ASCII letters, digits and underscores. -/
def isPlainIdentifier : List Char → Bool
  | [] => false
  | c :: rest => isIdentifierStart c && rest.all isIdentifierPart

/-- A character as it may stand between backticks. -/
def quotedChar (c : Char) : Char := if c ∈ forbiddenChars then '_' else c

/-- A text between backticks. -/
def backticked (cs : List Char) : String := String.ofList ('\x60' :: (cs ++ ['\x60']))

/-- A name as a Kotlin identifier. -/
def escapeIdentifier (name : String) : String :=
  if name = "" then backticked ['_']
  else if isPlainIdentifier name.toList then
    if name ∈ hardKeywords then backticked name.toList else name
  else backticked (name.toList.map quotedChar)

/-- One character as it is written inside a double-quoted string. -/
def escapeChar : Char → List Char
  | '"' => ['\\', '"']
  | '\\' => ['\\', '\\']
  | '$' => ['\\', '$']
  | '\n' => ['\\', 'n']
  | '\r' => ['\\', 'r']
  | '\t' => ['\\', 't']
  | c => [c]

/-- A text as it is written inside a double-quoted string. -/
def escapeString (value : String) : String := String.ofList (value.toList.flatMap escapeChar)

/-- A double-quoted string. -/
def stringLiteral (value : String) : String := "\"" ++ escapeString value ++ "\""

/-- The character reference that stands for a slash in comments. -/
def slashReference : List Char := ['&', '#', '4', '7', ';']

/-- Takes the slash from each `*` and `/` in a row, from the left. -/
def withoutClosers : List Char → List Char
  | '*' :: '/' :: rest => '*' :: slashReference ++ withoutClosers rest
  | c :: rest => c :: withoutClosers rest
  | [] => []

/-- Takes the slash from each `/` and `*` in a row, from the left. -/
def withoutOpeners : List Char → List Char
  | '/' :: '*' :: rest => slashReference ++ '*' :: withoutOpeners rest
  | c :: rest => c :: withoutOpeners rest
  | [] => []

/-- Text that a block comment can hold: closers lose their slash first, then openers. -/
def commentChars (cs : List Char) : List Char := withoutOpeners (withoutClosers cs)

/-- Text that a block comment can hold. -/
def commentText (value : String) : String := String.ofList (commentChars value.toList)

/-- The Kotlin type of a component schema, named by its key. -/
def typeName (key : String) : String := escapeIdentifier (Name.ofText key).pascal

end ClientGen.Kotlin
