import ClientGen.Kotlin.Lexical
import ClientGen.Text.Blank

/-!
# Documentation comments

A documentation comment is built from paragraphs and block tags and rendered as
one block comment.  Blank texts add nothing.  An empty line parts a paragraph
from what stands before it and the first tag from the paragraphs.  All text goes
through `commentText`, so the block ends where `render` ends it.
-/

namespace ClientGen.Kotlin

/-- The lines inside a documentation comment. -/
structure Doc where
  lines : List String := []
  deriving DecidableEq, Repr

namespace Doc

/-- The trimmed text, unless nothing but blanks was there. -/
def content? (text : Option String) : Option String :=
  (text.map Text.trim).filter (· ≠ "")

/-- An empty line, if there is anything to part. -/
def gap (d : Doc) : List String := if d.lines.isEmpty then [] else [""]

/-- Adds a paragraph, each line without the blanks at its end. -/
def paragraph (d : Doc) (text : Option String) : Doc :=
  match content? text with
  | none => d
  | some t => ⟨d.lines ++ d.gap ++ (Text.lines t).map fun l => commentText (Text.trimEnd l)⟩

/-- Whether a block tag has been added. -/
def hasTag (d : Doc) : Bool := d.lines.any fun l => l.startsWith "@"

/-- Adds a block tag such as `@param name text`; the text becomes one line. -/
def tag (d : Doc) (tagName : String) (subject : Option String) (text : Option String) : Doc :=
  match content? text with
  | none => d
  | some t =>
    let body := commentText (" ".intercalate (Text.lines t))
    let line := match subject with
      | some s => "@" ++ tagName ++ " " ++ s ++ " " ++ body
      | none => "@" ++ tagName ++ " " ++ body
    ⟨d.lines ++ (if d.hasTag then [] else d.gap) ++ [line]⟩

/-- The comment, line by line and without indentation; nothing if nothing was added. -/
def render (d : Doc) : List String :=
  match d.lines with
  | [] => []
  | [line] => ["/** " ++ line ++ " */"]
  | lines =>
    "/**" :: (lines.map fun line => if line = "" then " *" else " * " ++ line) ++ [" */"]

end Doc

end ClientGen.Kotlin
