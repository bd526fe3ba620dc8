import ClientGen.Yaml.Block
import ClientGen.Yaml.Plain
import ClientGen.Yaml.Token

/-!
# From lines to tokens

The blocks of a text are told by its lines: a block starts where a line is indented
further than what surrounds it, and ends at the first line that is indented less.
Between brackets lines do not count.

Whether something is a key is known only when its colon is met.  So each place where
a key might start is remembered, one for every bracket that is open; when the colon
comes, the token for the key is put at that place, and if a block starts with it, the
token for the block in front.  A key must be on one line with its colon and at most
1024 octets away from it.  What stands at the very indentation of a block has to
be a key.
-/

namespace ClientGen.Yaml

/-- A place where a key may have started. -/
structure KeyStart where
  /-- How many tokens there are in front of it. -/
  before : Nat
  place : Position
  /-- Whether it has to be a key. -/
  required : Bool
  deriving DecidableEq, Repr

/-- What is known between two tokens. -/
structure Layout where
  tokens : Array Token := #[]
  /-- The margin of the innermost block, one more than the column of what stands in it;
  outside of all blocks it is zero. -/
  margin : Nat := 0
  /-- The margins of the blocks around it. -/
  margins : List Nat := []
  /-- Whether a key may start here. -/
  keyAllowed : Bool := true
  /-- Where a key may have started. -/
  keyStart : Option KeyStart := none
  /-- The same in front of each bracket that is open. -/
  outer : List (Option KeyStart) := []

namespace Layout

/-- Whether a bracket is open. -/
def inBrackets (l : Layout) : Bool := !l.outer.isEmpty

/-- One more token. -/
def push (l : Layout) (t : Token) : Layout := { l with tokens := l.tokens.push t }

/-- A token at an earlier place. -/
def insert (l : Layout) (place : Nat) (t : Token) : Layout :=
  { l with tokens := l.tokens.insertIdxIfInBounds place t }

/-- Allows or forbids that a key starts here. -/
def allowKey (l : Layout) (b : Bool) : Layout := { l with keyAllowed := b }

/-- A place for a key that is too far away, unless there has to be one. -/
def keepKey? (p : Position) : Option KeyStart → Option (Option KeyStart)
  | none => some none
  | some k =>
    if k.place.line < p.line || k.place.octet + 1024 < p.octet then
      if k.required then none else some none
    else some (some k)

/-- Forgets the places for keys that are too far away. -/
def keepKeys? (l : Layout) (p : Position) : Option Layout := do
  let keyStart ← keepKey? p l.keyStart
  let outer ← l.outer.mapM (keepKey? p)
  some { l with keyStart, outer }

/-- Forgets the place for a key, unless there has to be one. -/
def dropKey? (l : Layout) : Option Layout :=
  if l.keyStart.any (·.required) then none else some { l with keyStart := none }

/-- Remembers that a key may start here. -/
def startKey? (l : Layout) (p : Position) : Option Layout :=
  if l.keyAllowed then do
    let l ← l.dropKey?
    let required := !l.inBrackets && l.margin == p.column + 1
    some { l with keyStart := some ⟨l.tokens.size, p, required⟩ }
  else some l

/-- Ends all blocks that are indented by the margin or more; `margins` are those around
the innermost one. -/
def endBlocks (margin : Nat) (tokens : Array Token) (current : Nat) :
    List Nat → Array Token × Nat × List Nat
  | [] => (tokens, current, [])
  | m :: margins =>
    if margin < current then endBlocks margin (tokens.push .blockEnd) m margins
    else (tokens, current, m :: margins)

/-- Ends all blocks beyond a margin, unless a bracket is open. -/
def unindent (l : Layout) (margin : Nat) : Layout :=
  if l.inBrackets then l
  else
    let (tokens, margin, margins) := endBlocks margin l.tokens l.margin l.margins
    { l with tokens, margin, margins }

/-- Starts a block at a column if it is indented further than the one around it, unless
a bracket is open; its token goes to a place. -/
def indent (l : Layout) (column : Nat) (place : Nat) (t : Token) : Layout :=
  if l.inBrackets || column < l.margin then l
  else { l.insert place t with margin := column + 1, margins := l.margin :: l.margins }

/-- Ends all blocks in front of something that stands outside of them. -/
def leaveBlocks? (l : Layout) : Option Layout := do
  let l ← (l.unindent 0).dropKey?
  some (l.allowKey false)

/-- An opening bracket. -/
def openBracket? (l : Layout) (c : Cursor) (t : Token) : Option (Layout × Cursor) := do
  let l ← l.startKey? c.place
  let l := { l with outer := l.keyStart :: l.outer, keyStart := none, keyAllowed := true }
  some (l.push t, c.drop 1)

/-- A closing bracket. -/
def closeBracket? (l : Layout) (c : Cursor) (t : Token) : Option (Layout × Cursor) := do
  let l ← l.dropKey?
  let l := match l.outer with
    | k :: outer => { l with keyStart := k, outer }
    | [] => l
  some ((l.allowKey false).push t, c.drop 1)

/-- A comma. -/
def comma? (l : Layout) (c : Cursor) : Option (Layout × Cursor) := do
  let l ← l.dropKey?
  some ((l.allowKey true).push .comma, c.drop 1)

/-- Starts a block with a mark, which must stand where a key may stand. -/
def startBlock? (l : Layout) (c : Cursor) (t : Token) : Option Layout :=
  if l.inBrackets then some l
  else if l.keyAllowed then some (l.indent c.place.column l.tokens.size t)
  else none

/-- The mark of an item. -/
def item? (l : Layout) (c : Cursor) : Option (Layout × Cursor) := do
  let l ← l.startBlock? c .blockList
  let l ← l.dropKey?
  some ((l.allowKey true).push .item, c.drop 1)

/-- The mark of a key. -/
def key? (l : Layout) (c : Cursor) : Option (Layout × Cursor) := do
  let l ← l.startBlock? c .blockRecord
  let l ← l.dropKey?
  some ((l.allowKey !l.inBrackets).push .key, c.drop 1)

/-- A colon. -/
def colon? (l : Layout) (c : Cursor) : Option (Layout × Cursor) :=
  match l.keyStart with
  | some k =>
    let l := (l.insert k.before .key).indent k.place.column k.before .blockRecord
    some (({ l with keyStart := none, keyAllowed := false }).push .colon, c.drop 1)
  | none => do
    let l ← l.startBlock? c .blockRecord
    some ((l.allowKey !l.inBrackets).push .colon, c.drop 1)

/-- A token at which a key may start. -/
def atom? (l : Layout) (c : Cursor) (scan : Option (Token × Cursor)) :
    Option (Layout × Cursor) := do
  let l ← l.startKey? c.place
  let (t, c) ← scan
  some ((l.allowKey false).push t, c)

/-- A scalar between quotes. -/
def quoted? (l : Layout) (c : Cursor) (double : Bool) : Option (Layout × Cursor) :=
  l.atom? c (((c.drop 1).quoted? double).map fun (s, c) => (.scalar .quoted s, c))

/-- A plain scalar.  If a line ends behind it, a key may follow. -/
def plain? (l : Layout) (c : Cursor) : Option (Layout × Cursor) := do
  let l ← l.startKey? c.place
  let p ← c.plain? l.inBrackets l.margin
  some ((l.allowKey p.isBroken).push (.scalar .plain p.text), p.cursor)

/-- A block scalar. -/
def block? (l : Layout) (c : Cursor) (folded : Bool) : Option (Layout × Cursor) := do
  let l ← l.dropKey?
  let (s, c) ← (c.drop 1).block? folded l.margin
  some ((l.allowKey true).push (.scalar (if folded then .folded else .literal) s), c)

/-- A directive. -/
def directive? (l : Layout) (c : Cursor) : Option (Layout × Cursor) := do
  let l ← l.leaveBlocks?
  let (d, c) ← (c.drop 1).directive?
  some (l.push (.directive d), c)

/-- A mark between documents. -/
def marker? (l : Layout) (c : Cursor) (t : Token) : Option (Layout × Cursor) := do
  let l ← l.leaveBlocks?
  some (l.push t, c.drop 3)

/-- Whether a character starts no plain scalar, whatever follows it. -/
def isIndicator (c : Char) : Bool := "-?:,[]\x7b\x7d#&*!|>'\"%@\x60".toList.contains c

/-- Whether a plain scalar starts with a character that something follows. -/
def startsPlain (l : Layout) (c : Char) (rest : List Char) : Bool :=
  !(isIndicator c || isBlank c) || (c == '-' && !rest.head?.any isBlank) ||
    (!l.inBrackets && (c == '?' || c == ':') && !endsWord rest)

/-- The next token, at a cursor behind all blanks. -/
def token? (l : Layout) (c : Cursor) : Option (Layout × Cursor) :=
  match c.rest with
  | [] => none
  | x :: rest =>
    let wide := l.inBrackets || endsWord rest
    if c.place.column = 0 ∧ x = '%' then l.directive? c
    else if c.atMarker then l.marker? c (if x = '-' then .documentStart else .documentEnd)
    else if x = '[' then l.openBracket? c .openList
    else if x = '\x7b' then l.openBracket? c .openRecord
    else if x = ']' then l.closeBracket? c .closeList
    else if x = '\x7d' then l.closeBracket? c .closeRecord
    else if x = ',' then l.comma? c
    else if x = '-' ∧ endsWord rest then l.item? c
    else if x = '?' ∧ wide then l.key? c
    else if x = ':' ∧ wide then l.colon? c
    else if x = '*' then l.atom? c ((c.drop 1).anchor?.map fun (s, c) => (.aliasOf s, c))
    else if x = '&' then l.atom? c ((c.drop 1).anchor?.map fun (s, c) => (.anchor s, c))
    else if x = '!' then l.atom? c (((c.drop 1).tag? l.inBrackets).map fun (t, c) => (.tag t, c))
    else if x = '|' ∧ !l.inBrackets then l.block? c false
    else if x = '>' ∧ !l.inBrackets then l.block? c true
    else if x = '\'' then l.quoted? c false
    else if x = '"' then l.quoted? c true
    else if l.startsPlain x rest then l.plain? c
    else none

/-- Skips what stands between two tokens from here on: whether a key may start behind it, and
where that is.  A line that ends allows a key, unless a bracket is open.  A tab is a blank
only where no key is allowed or a bracket is open.  A mark for the order of octets may
stand at the start of any line. -/
def scanGap (inBrackets keyAllowed inComment : Bool) (p : Position) : List Char → Bool × Cursor
  | [] => (keyAllowed, ⟨[], p⟩)
  | c :: cs =>
    if isBreak c then scanGap inBrackets (keyAllowed || !inBrackets) false (p.after c) cs
    else if inComment || c == '#' then scanGap inBrackets keyAllowed true (p.after c) cs
    else if c == ' ' || (c == '\t' && (inBrackets || !keyAllowed)) ||
        (c == '\ufeff' && p.column == 0) then
      scanGap inBrackets keyAllowed false (p.after c) cs
    else (keyAllowed, ⟨c :: cs, p⟩)

/-- Skips what stands between two tokens. -/
def skip (l : Layout) (c : Cursor) : Layout × Cursor :=
  let (keyAllowed, c) := scanGap l.inBrackets l.keyAllowed false c.place c.rest
  (l.allowKey keyAllowed, c)

/-- All tokens from here on; `fuel` bounds their number. -/
def tokens? (l : Layout) (c : Cursor) : Nat → Option (Array Token)
  | 0 => none
  | fuel + 1 => do
    let (l, c) := l.skip c
    let l ← l.keepKeys? c.place
    if c.rest.isEmpty then
      let l ← l.leaveBlocks?
      some l.tokens
    else
      let l := l.unindent (c.place.column + 1)
      let (l, c) ← l.token? c
      l.tokens? c fuel

end Layout

/-- The tokens of a text. -/
def tokens? (text : String) : Option (List Token) := do
  let content ← content? text
  let tokens ← ({} : Layout).tokens? ⟨content, {}⟩ (content.length + 1)
  some tokens.toList

end ClientGen.Yaml
