import ClientGen.Json.Number
import ClientGen.Json.Text

/-!
# JSON texts

`read` turns a JSON text into a node, whatever the text is: lists and records end
where the text stops making sense, with the fault that was met there.  Lists and
records may be nested 127 deep; those that are deeper cannot be read, but they can
be passed over.

Each scanner gives back what follows the part it has read, which is shorter than
what it started from; that is why scanning ends.
-/

namespace ClientGen.Json

/-- Blanks between the parts of a text. -/
def isSpace (c : Char) : Bool := c == ' ' || c == '\n' || c == '\t' || c == '\r'

/-- The text without blanks in front. -/
def skipSpace (cs : List Char) : List Char := cs.dropWhile isSpace

/-- Skipping blanks makes no text longer. -/
theorem length_skipSpace (cs : List Char) : (skipSpace cs).length ≤ cs.length :=
  (List.dropWhile_sublist _).length_le

/-- A node, and what follows it unless the text made no sense. -/
structure Scanned (cs : List Char) where
  node : Node
  rest : Option (Rest cs)

/-- Items or members, where they end, and what follows unless the text made no sense. -/
structure Sequence (α : Type) (cs : List Char) where
  entries : List α
  ending : Option Stop
  rest : Option (Rest cs)

/-- What follows, seen from further back. -/
def further {cs ds : List Char} (h : ds.length ≤ cs.length) (r : Rest ds) : Rest cs :=
  ⟨r.1, Nat.lt_of_lt_of_le r.2 h⟩

namespace Scanned

/-- A node where reading cannot go on. -/
def stop (s : Stop) {cs : List Char} : Scanned cs := ⟨.unreadable s.read (some s.skip), none⟩

end Scanned

namespace Sequence

/-- Nothing more, because the text makes no sense. -/
def stop (f : Fault) {α : Type} {cs : List Char} : Sequence α cs := ⟨[], some f.stop, none⟩

/-- One entry in front of others that start later. -/
def push (a : α) {cs ds : List Char} (h : ds.length ≤ cs.length) (s : Sequence α ds) :
    Sequence α cs :=
  ⟨a :: s.entries, s.ending, s.rest.map (further h)⟩

/-- A last entry, behind which the text makes no sense. -/
def last (a : α) {cs : List Char} : Sequence α cs := ⟨[a], none, none⟩

end Sequence

/-- How deep lists and records may be nested. -/
def maxDepth : Nat := 127

/-- A list or record at a depth; the first that is too deep cannot be read. -/
def atDepth (depth : Nat) (n : Node) : Node :=
  if depth = maxDepth then .unreadable .malformed n.skipFault? else n

/-- Reads a word that stands for a node, behind its first letter. -/
def scanWord (node : Node) :
    List Char → (cs : List Char) → Node × Option { r : List Char // r.length ≤ cs.length }
  | [], cs => (node, some ⟨cs, Nat.le_refl _⟩)
  | _ :: _, [] => (.unreadable .truncated (some .truncated), none)
  | w :: word, c :: cs =>
    if w = c then
      let (n, rest) := scanWord node word cs
      (n, rest.map fun r => ⟨r.1, Nat.le_trans r.2 (by simp)⟩)
    else (.unreadable .malformed (some .malformed), none)

/-- A word behind its first letter, seen from that letter. -/
def scanWordFrom (node : Node) (word : List Char) (c : Char) (cs : List Char) :
    Scanned (c :: cs) :=
  let (n, rest) := scanWord node word cs
  ⟨n, rest.map fun r => ⟨r.1, Nat.lt_succ_of_le r.2⟩⟩

/-- A number.  What follows it has been checked to be shorter. -/
def scanNumberNode (cs : List Char) : Scanned cs :=
  match scanNumber cs with
  | .error s => .stop s
  | .ok (spelled, rest) =>
    if h : rest.length < cs.length then ⟨numberNode spelled, some ⟨rest, h⟩⟩
    else .stop Fault.malformed.stop

/-- A quoted text behind its quote, seen from the quote. -/
def scanText (c : Char) (cs : List Char) : Scanned (c :: cs) :=
  let q := scanQuoted cs
  match q.rest with
  | .ok r => ⟨closedText q.units, some ⟨r.1, Nat.lt_succ_of_le r.2⟩⟩
  | .error f => .stop (openText q.units f)

/-- The scalar for null. -/
def nullNode : Node := .scalar { value? := some .null, null? := some true }

/-- The scalar for a truth value. -/
def boolNode (b : Bool) : Node := .scalar { bool? := some b, value? := some (.bool b) }

mutual

/-- A value inside `depth` lists and records; blanks have been skipped. -/
def scanValue (depth : Nat) : (cs : List Char) → Scanned cs
  | [] => .stop Fault.truncated.stop
  | 'n' :: rest => scanWordFrom nullNode ['u', 'l', 'l'] 'n' rest
  | 't' :: rest => scanWordFrom (boolNode true) ['r', 'u', 'e'] 't' rest
  | 'f' :: rest => scanWordFrom (boolNode false) ['a', 'l', 's', 'e'] 'f' rest
  | '"' :: rest => scanText '"' rest
  | '[' :: rest =>
    have hs := length_skipSpace rest
    match _hrest : skipSpace rest with
    | ']' :: more =>
      ⟨atDepth depth (.list [] none), some ⟨more, by simp [_hrest] at hs; simp; omega⟩⟩
    | start =>
      have hstart : start.length < ('[' :: rest).length := by simp [← _hrest]; omega
      let s := scanItems (depth + 1) start
      ⟨atDepth depth (.list s.entries s.ending), s.rest.map (further (Nat.le_of_lt hstart))⟩
  | '\x7b' :: rest =>
    have hs := length_skipSpace rest
    match _hrest : skipSpace rest with
    | '\x7d' :: more =>
      ⟨atDepth depth (.record [] none), some ⟨more, by simp [_hrest] at hs; simp; omega⟩⟩
    | start =>
      have hstart : start.length < ('\x7b' :: rest).length := by simp [← _hrest]; omega
      let s := scanMembers (depth + 1) start
      ⟨atDepth depth (.record s.entries s.ending), s.rest.map (further (Nat.le_of_lt hstart))⟩
  | c :: rest =>
    if c == '-' || c.isDigit then scanNumberNode (c :: rest) else .stop Fault.malformed.stop
termination_by cs => (cs.length, 0)

/-- The items of a list up to its end; blanks have been skipped. -/
def scanItems (depth : Nat) (cs : List Char) : Sequence Node cs :=
  let v := scanValue depth cs
  match v.rest with
  | none => .last v.node
  | some ⟨rest, hrest⟩ =>
    have hs := length_skipSpace rest
    match _hmore : skipSpace rest with
    | ']' :: more => ⟨[v.node], none, some ⟨more, by simp [_hmore] at hs; omega⟩⟩
    | ',' :: more =>
      have hmore := length_skipSpace more
      have hle : (skipSpace more).length < cs.length := by simp [_hmore] at hs; omega
      (scanItems depth (skipSpace more)).push v.node (Nat.le_of_lt hle)
    | [] => (Sequence.stop .truncated).push v.node (Nat.le_refl _)
    | _ => (Sequence.stop .malformed).push v.node (Nat.le_refl _)
termination_by (cs.length, 1)

/-- The members of a record up to its end; blanks have been skipped. -/
def scanMembers (depth : Nat) : (cs : List Char) → Sequence (Node × Node) cs
  | [] => .stop .truncated
  | '"' :: start =>
    let key := scanText '"' start
    match key.rest with
    | none =>
      match key.node with
      | .unreadable read (some skip) => ⟨[], some ⟨read, skip⟩, none⟩
      | _ => .stop .malformed
    | some ⟨rest, hrest⟩ =>
      have hs := length_skipSpace rest
      match _hcolon : skipSpace rest with
      | [] => .last (key.node, .unreadable .truncated (some .truncated))
      | ':' :: behind =>
        have hb := length_skipSpace behind
        have hlt : (skipSpace behind).length < ('"' :: start).length := by
          simp [_hcolon] at hs; omega
        let v := scanValue depth (skipSpace behind)
        match v.rest with
        | none => .last (key.node, v.node)
        | some ⟨after, hafter⟩ =>
          have ha := length_skipSpace after
          match _hmore : skipSpace after with
          | '\x7d' :: more =>
            ⟨[(key.node, v.node)], none, some ⟨more, by simp [_hmore] at ha; omega⟩⟩
          | ',' :: more =>
            have hm := length_skipSpace more
            have hle : (skipSpace more).length < ('"' :: start).length := by
              simp [_hmore] at ha; omega
            (scanMembers depth (skipSpace more)).push (key.node, v.node) (Nat.le_of_lt hle)
          | [] => (Sequence.stop .truncated).push (key.node, v.node) (Nat.le_refl _)
          | _ => (Sequence.stop .malformed).push (key.node, v.node) (Nat.le_refl _)
      | _ => .last (key.node, .unreadable .malformed (some .malformed))
  | _ => .stop .malformed
termination_by cs => (cs.length, 1)

end

/-- A JSON text as a node, and whether anything but blanks follows it. -/
def read (text : String) : Node × Bool :=
  let v := scanValue 0 (skipSpace text.toList)
  (v.node, v.rest.any fun r => !(skipSpace r.1).isEmpty)

end ClientGen.Json
