import ClientGen.Yaml.Cursor

/-!
# Scalars of whole lines

A block scalar is the text of the lines below its mark, as far as they are indented.
The indentation is that of the first line that is not empty, unless the mark says
otherwise.  In a literal scalar all lines are kept; in a folded one the end of a line
becomes a blank between two lines that do not start with one.  What becomes of the
ends of lines behind the last one is told by the mark.
-/

namespace ClientGen.Yaml

/-- What is kept of the ends of lines behind the last line. -/
inductive Chomping where
  | strip
  | clip
  | keep
  deriving DecidableEq, Repr

/-- What stands behind the mark of a block scalar. -/
structure BlockHeader where
  chomping : Chomping := .clip
  /-- How much further than what surrounds it the scalar is indented. -/
  indentation : Option Nat := none
  deriving DecidableEq, Repr

/-- The chomping that a character asks for. -/
def chomping? : Char → Option Chomping
  | '+' => some .keep
  | '-' => some .strip
  | _ => none

/-- An indentation and what follows it, if there is one; it must not be zero. -/
def scanIndentation? (c : Cursor) : Option (Option Nat × Cursor) :=
  match c.rest with
  | '0' :: _ => none
  | d :: _ => if d.isDigit then some (some (d.toNat - '0'.toNat), c.drop 1) else some (none, c)
  | [] => some (none, c)

/-- The chomping and what follows it; a scalar is clipped if nothing is said. -/
def scanChomping (c : Cursor) : Chomping × Cursor :=
  match c.rest.head?.bind chomping? with
  | some k => (k, c.drop 1)
  | none => (.clip, c)

/-- What is said behind a mark, in either order. -/
def scanBlockHeader? (c : Cursor) : Option (BlockHeader × Cursor) := do
  let (before, c) := scanChomping c
  let (indentation, c) ← scanIndentation? c
  let (chomping, c) :=
    if before = .clip ∧ indentation.isSome then scanChomping c else (before, c)
  some (⟨chomping, indentation⟩, c)

/-- Lines that are empty: their ends, backwards, the deepest column in them, and what
follows them. -/
structure EmptyLines where
  breaks : List Char
  deepest : Nat
  cursor : Cursor

/-- The empty lines in front of the first line, given the indentation if it is known.  A tab
must not stand where a line is indented. -/
def scanEmptyLines (indentation : Option Nat) (breaks : List Char) (deepest : Nat) (p : Position) :
    List Char → Option EmptyLines
  | [] => some ⟨breaks, max deepest p.column, ⟨[], p⟩⟩
  | c :: cs =>
    let inIndentation := indentation.all fun n => p.column < n
    if inIndentation && c == ' ' then
      scanEmptyLines indentation breaks deepest (p.after c) cs
    else if inIndentation && c == '\t' then none
    else if isBreak c then
      scanEmptyLines indentation (c :: breaks) (max deepest p.column) (p.after c) cs
    else some ⟨breaks, max deepest p.column, ⟨c :: cs, p⟩⟩

/-- What has been read of a block scalar; texts are backwards. -/
structure BlockText where
  text : List Char := []
  /-- The end of the last line, if it has one. -/
  ending : Option Char := none
  /-- The ends of the empty lines behind it. -/
  breaks : List Char := []
  /-- Whether the last line starts with a blank. -/
  startsBlank : Bool := false

namespace BlockText

/-- The text up to the start of the next line. -/
def join (t : BlockText) (folded startsBlank : Bool) : List Char :=
  if folded && t.ending == some '\n' && !t.startsBlank && !startsBlank then
    if t.breaks.isEmpty then ' ' :: t.text else t.breaks ++ t.text
  else t.breaks ++ (t.ending.toList ++ t.text)

/-- The text with the first character of the next line. -/
def startLine (t : BlockText) (folded : Bool) (c : Char) : BlockText :=
  { text := c :: t.join folded (isBlank c), startsBlank := isBlank c }

/-- The text when no line follows. -/
def finish (t : BlockText) (k : Chomping) : String :=
  String.ofList (match k with
    | .strip => t.text
    | .clip => t.ending.toList ++ t.text
    | .keep => t.breaks ++ (t.ending.toList ++ t.text)).reverse

end BlockText

/-- The lines of a block scalar from here on; a line that is indented less ends it. -/
def scanLines (folded : Bool) (chomping : Chomping) (indentation : Nat) (t : BlockText)
    (inLine : Bool) (p : Position) : List Char → Option (String × Cursor)
  | [] => some (t.finish chomping, ⟨[], p⟩)
  | c :: cs =>
    let next := fun t inLine => scanLines folded chomping indentation t inLine (p.after c) cs
    if inLine then
      if isBreak c then next { t with ending := some c } false
      else next { t with text := c :: t.text } true
    else if p.column < indentation && c == ' ' then next t false
    else if p.column < indentation && c == '\t' then none
    else if isBreak c then next { t with breaks := c :: t.breaks } false
    else if p.column = indentation then next (t.startLine folded c) true
    else some (t.finish chomping, ⟨c :: cs, p⟩)

/-- The block scalar behind a mark; `margin` is the column that nothing inside may be
left of. -/
def Cursor.block? (c : Cursor) (folded : Bool) (margin : Nat) : Option (String × Cursor) := do
  let (header, c) ← scanBlockHeader? c
  let c ← c.endLine?
  let given := header.indentation.map fun n => margin - 1 + n
  let empty ← scanEmptyLines given [] 0 c.place c.rest
  let indentation := given.getD (max (max empty.deepest margin) 1)
  scanLines folded header.chomping indentation { breaks := empty.breaks } false
    empty.cursor.place empty.cursor.rest

end ClientGen.Yaml
