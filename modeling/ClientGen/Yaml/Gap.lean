import ClientGen.Yaml.Cursor

/-!
# What stands between two words

Blanks between two words of a scalar are part of it as long as they are on one line.
Once a line has ended between the words, blanks no longer count: a single end of
line becomes a blank, and of several the first one is dropped.  The separators that
are no line feeds are always kept.
-/

namespace ClientGen.Yaml

/-- What stands between two words. -/
inductive Gap where
  /-- Blanks on one line, the last one first. -/
  | blanks (cs : List Char)
  /-- The ends of lines: the first one, unless it was escaped, and the others, the
  last one first. -/
  | breaks (first : Option Char) (more : List Char)
  deriving DecidableEq, Repr

namespace Gap

/-- Nothing yet. -/
def empty : Gap := blanks []

/-- Whether nothing stands between the words. -/
def isEmpty : Gap → Bool
  | blanks cs => cs.isEmpty
  | breaks _ _ => false

/-- Whether a line ended between the words. -/
def isBroken : Gap → Bool
  | blanks _ => false
  | breaks _ _ => true

/-- The gap with one more blank. -/
def addBlank (c : Char) : Gap → Gap
  | blanks cs => blanks (c :: cs)
  | breaks first more => breaks first more

/-- The gap with one more end of a line. -/
def addBreak (c : Char) : Gap → Gap
  | blanks _ => breaks (some c) []
  | breaks first more => breaks first (c :: more)

/-- What the gap is in the scalar, put in front of what stands before it; all of it is
backwards. -/
def close (before : List Char) : Gap → List Char
  | blanks cs => cs ++ before
  | breaks (some '\n') [] => ' ' :: before
  | breaks (some '\n') more => more ++ before
  | breaks first more => more ++ (first.toList ++ before)

end Gap

end ClientGen.Yaml
