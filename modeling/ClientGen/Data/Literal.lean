import ClientGen.Decimal.Basic

/-!
# Literals

The values a schema may enumerate.  A literal is a value without any schema; the
members of a record are in ascending order of their names and no name occurs
twice.  `text` writes a literal in its compact form, as one line without blanks.
-/

namespace ClientGen

/-- A value that stands for itself. -/
inductive Literal where
  | null
  | bool (b : Bool)
  | integer (n : Int)
  | real (x : Decimal)
  | text (s : String)
  | list (items : List Literal)
  | record (members : List (String × Literal))
  deriving Repr, Inhabited

namespace Literal

/-- Whether this is the null literal. -/
def isNull : Literal → Bool
  | null => true
  | _ => false

/-- A hexadecimal digit, in lowercase. -/
def hexDigit (n : Nat) : Char := (Nat.digitChar (n % 16))

/-- One character inside a quoted text. -/
def quotedChar (c : Char) : List Char :=
  if c = '"' then ['\\', '"']
  else if c = '\\' then ['\\', '\\']
  else if c = '\x08' then ['\\', 'b']
  else if c = '\x0c' then ['\\', 'f']
  else if c = '\n' then ['\\', 'n']
  else if c = '\r' then ['\\', 'r']
  else if c = '\t' then ['\\', 't']
  else if c.toNat < 32 then ['\\', 'u', '0', '0', hexDigit (c.toNat / 16), hexDigit c.toNat]
  else [c]

/-- A text between quotes. -/
def quoted (s : String) : String :=
  String.ofList ('"' :: (s.toList.flatMap quotedChar ++ ['"']))

mutual

/-- The literal on one line. -/
def write : Literal → String
  | null => "null"
  | bool b => if b then "true" else "false"
  | integer n => toString n
  | real x => x.text
  | text s => quoted s
  | list items => "[" ++ ",".intercalate (writeItems items) ++ "]"
  | record members => "\x7b" ++ ",".intercalate (writeMembers members) ++ "\x7d"

/-- The items of a list. -/
def writeItems : List Literal → List String
  | [] => []
  | item :: items => write item :: writeItems items

/-- The members of a record. -/
def writeMembers : List (String × Literal) → List String
  | [] => []
  | (key, value) :: members => (quoted key ++ ":" ++ write value) :: writeMembers members

end

/-- Puts a member at its place, over one of the same name. -/
def insertMember (key : String) (value : Literal) :
    List (String × Literal) → List (String × Literal)
  | [] => [(key, value)]
  | (k, v) :: members =>
    if key < k then (key, value) :: (k, v) :: members
    else if key = k then (key, value) :: members
    else (k, v) :: insertMember key value members

end Literal

end ClientGen
