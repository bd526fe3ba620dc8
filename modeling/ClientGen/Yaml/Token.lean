import ClientGen.Yaml.Label

/-!
# Tokens

What a text consists of before it is known which parts of it belong together.  The
tokens for the start and the end of a block, and for a key, have no characters of
their own: they tell how the lines are indented and what stands in front of a colon.
-/

namespace ClientGen.Yaml

/-- How a scalar is written. -/
inductive Style where
  | plain
  | quoted
  | literal
  | folded
  deriving DecidableEq, Repr

/-- A part of a text. -/
inductive Token where
  | directive (d : Directive)
  | documentStart
  | documentEnd
  | blockList
  | blockRecord
  | blockEnd
  | openList
  | closeList
  | openRecord
  | closeRecord
  | item
  | comma
  | key
  | colon
  | aliasOf (name : String)
  | anchor (name : String)
  | tag (t : Tag)
  | scalar (style : Style) (text : String)
  deriving DecidableEq, Repr

end ClientGen.Yaml
