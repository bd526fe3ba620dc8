import ClientGen.Data.Node

/-!
# Records with known fields

What a record means is told by a table of its fields: the name of each, whether it
must be there, and how its value changes what is known so far.  The same table
reads a record given by names and one given as a list of its values in the order of
the table.

* From a `Node`, everything happens in the order of the text: the first fault, or
  the first value of the wrong kind, is the answer.  Members of other names are
  passed over.
* From a `Value`, which has been read to its end, all that can be wrong is a
  mismatch.  A field may also be named by its position in the table.

A field that is given twice is a mismatch.  A map may have a key twice; the last
value counts, in the place of the first.
-/

namespace ClientGen

/-- A field of a record: how a value `ν` changes what is known, `σ`; reading it is done
in `m`. -/
structure Field (m : Type → Type) (ν σ : Type) where
  name : String
  required : Bool := false
  read : ν → σ → m σ

namespace Field

variable {m : Type → Type} [Monad m]

/-- A field that may be missing. -/
def optional (name : String) (read : ν → m α) (set : α → σ → σ) : Field m ν σ :=
  ⟨name, false, fun n s => do return set (← read n) s⟩

/-- A field that must be there. -/
def mandatory (name : String) (read : ν → m α) (set : α → σ → σ) : Field m ν σ :=
  ⟨name, true, fun n s => do return set (← read n) s⟩

/-- The field of a name. -/
def named? (fields : List (Field m ν σ)) (name : String) : Option (Field m ν σ) :=
  fields.find? fun f => f.name == name

/-- What is known when a record ends, if no field is missing that must be there. -/
def complete (fields : List (Field m ν σ)) (seen : List String) (s : σ) : Except Fault σ :=
  if fields.all fun f => !f.required || seen.contains f.name then .ok s else .error .mismatch

/-- What is known when a list ends in front of some fields. -/
def rest (fields : List (Field m ν σ)) (s : σ) : Except Fault σ :=
  if fields.any (·.required) then .error .mismatch else .ok s

end Field

/-- Puts a value under a key: in place of the one that is there, or behind all others. -/
def putEntry (key : String) (a : α) : List (String × α) → List (String × α)
  | [] => [(key, a)]
  | (k, b) :: entries => if k = key then (key, a) :: entries else (k, b) :: putEntry key a entries

/-- One of several words; each may be spelled in several ways. -/
abbrev Words (α : Type) := List (List String × α)

/-- What a word stands for. -/
def Words.find? (words : Words α) (w : String) : Except Fault α :=
  match List.find? (fun entry => entry.1.contains w) words with
  | some entry => .ok entry.2
  | none => .error .mismatch

namespace Node

/-- The answer for a scalar, or a fault if there is none. -/
def answer (f : Fault) : Option α → Reading α
  | some a => return a
  | none => f.raise

/-- A reading of scalars, where nothing but a scalar is expected. -/
def ofScalar (read : Scalar → Option α) (n : Node) : Reading α := do
  match (← n.meant).bare with
  | unreadable fault _ => fault.raise
  | scalar s => answer .mismatch (read s)
  | _ => Fault.mismatch.raise

/-- A text. -/
def asText : Node → Reading String := ofScalar (·.text?)

/-- A truth value. -/
def asBool : Node → Reading Bool := ofScalar (·.bool?)

/-- Where something may be missing: whether nothing is there, unless that is not clear. -/
def null? (n : Node) : Option Bool :=
  match n.bare with
  | scalar s => s.null?
  | _ => some false

/-- Something that may be missing. -/
def opt (read : Node → Reading α) (n : Node) : Reading (Option α) := do
  let n ← n.meant
  match n.null? with
  | some true => return none
  | some false => return some (← read n)
  | none => Fault.mismatch.raise

/-- A reading of a node that has been read to its end. -/
def whole (read : Value → Except Fault α) (n : Node) : Reading α := do
  .ofExcept (read (← n.value))

/-- A list. -/
def listOf (read : Node → Reading α) (n : Node) : Reading (List α) := do
  match (← n.meant).bare with
  | unreadable fault _ => fault.raise
  | scalar s => if s.isEmpty then return [] else Fault.mismatch.raise
  | list items ending => finish ending (← items.mapM read)
  | _ => Fault.mismatch.raise

/-- The entries of a map, put to those collected so far. -/
def putEntries (read : Node → Reading α) (found : List (String × α)) :
    List (Node × Node) → Reading (List (String × α))
  | [] => return found
  | (key, n) :: members => do
    let k ← key.asText
    let a ← read n
    putEntries read (putEntry k a found) members

/-- A map. -/
def mapOf (read : Node → Reading α) (n : Node) : Reading (List (String × α)) := do
  match (← n.meant).bare with
  | unreadable fault _ => fault.raise
  | scalar s => if s.isEmpty then return [] else Fault.mismatch.raise
  | record members ending => finish ending (← putEntries read [] members)
  | _ => Fault.mismatch.raise

/-- What is known after the members of a record, given the names met before. -/
def readMembers (fields : List (Field Reading Node σ)) (seen : List String) (s : σ) :
    List (Node × Node) → Reading (List String × σ)
  | [] => return (seen, s)
  | (key, n) :: members => do
    let k ← key.asText
    match Field.named? fields k with
    | some field =>
      if k ∈ seen then Fault.mismatch.raise
      else
        let s ← field.read n s
        readMembers fields (k :: seen) s members
    | none =>
      match n.skipFault? with
      | some fault => fault.raise
      | none => readMembers fields seen s members

/-- What is known after the items of a list. -/
def readItems (ending : Option Stop) (s : σ) :
    List (Field Reading Node σ) → List Node → Reading σ
  | [], [] => finish ending s
  | [], _ :: _ => Fault.malformed.raise
  | field :: fields, [] => do
    finish ending ()
    .ofExcept (Field.rest (field :: fields) s)
  | field :: fields, n :: items => do
    let s ← field.read n s
    readItems ending s fields items

/-- A record with known fields. -/
def recordOf (format : Format) (fields : List (Field Reading Node σ)) (start : σ) (n : Node) :
    Reading σ := do
  match (← n.meant).bare with
  | unreadable fault _ => fault.raise
  | scalar s =>
    if s.isEmpty then .ofExcept (Field.complete fields [] start) else Fault.mismatch.raise
  | list items ending =>
    if format.recordsInLists then readItems ending start fields items
    else Fault.mismatch.raise
  | record members ending => do
    let (seen, s) ← readMembers fields [] start members
    finish ending ()
    .ofExcept (Field.complete fields seen s)
  | _ => Fault.mismatch.raise

/-- One of several words; it may also be the key of a record that has nothing under it. -/
def wordOf (format : Format) (words : Words α) (n : Node) : Reading α := do
  match (← n.meant).bare with
  | unreadable fault _ => fault.raise
  | scalar s => .ofExcept (words.find? (← answer .malformed s.word?))
  | list _ _ => Fault.malformed.raise
  | record [] ending => do
    finish ending ()
    Fault.malformed.raise
  | record ((key, n) :: members) ending =>
    if !format.wordsInRecords then Fault.mismatch.raise
    else do
      let a ← .ofExcept (words.find? (← key.asText))
      match n with
      | unreadable fault _ => fault.raise
      | n =>
        if n.null? != some true then Fault.mismatch.raise
        else if !members.isEmpty then Fault.malformed.raise
        else finish ending a
  | _ => Fault.mismatch.raise

end Node

namespace Value

/-- The answer, or a mismatch if there is none. -/
def expect : Option α → Except Fault α
  | some a => .ok a
  | none => .error .mismatch

/-- A text. -/
def asText (v : Value) : Except Fault String := expect v.text?

/-- A truth value. -/
def asBool : Value → Except Fault Bool
  | .bool b => .ok b
  | _ => .error .mismatch

/-- Something that may be missing. -/
def opt (read : Value → Except Fault α) : Value → Except Fault (Option α)
  | .null => .ok none
  | v => (read v).map some

/-- A list. -/
def listOf (read : Value → Except Fault α) : Value → Except Fault (List α)
  | .list items => items.mapM read
  | _ => .error .mismatch

/-- The entries of a map, put to those collected so far. -/
def putEntries (read : Value → Except Fault α) (found : List (String × α)) :
    List (Value × Value) → Except Fault (List (String × α))
  | [] => .ok found
  | (key, v) :: entries => do
    let k ← key.asText
    let a ← read v
    putEntries read (putEntry k a found) entries

/-- A map. -/
def mapOf (read : Value → Except Fault α) : Value → Except Fault (List (String × α))
  | .mapping entries => putEntries read [] entries
  | _ => .error .mismatch

/-- The field that a key means, by its name or by its position. -/
def fieldOf? (fields : List (Field (Except Fault) Value σ)) :
    Value → Except Fault (Option (Field (Except Fault) Value σ))
  | .text s => .ok (Field.named? fields s)
  | .natural n => .ok fields[n]?
  | _ => .error .mismatch

/-- What is known after the entries of a mapping, given the names met before. -/
def readEntries (fields : List (Field (Except Fault) Value σ)) (seen : List String) (s : σ) :
    List (Value × Value) → Except Fault (List String × σ)
  | [] => .ok (seen, s)
  | (key, v) :: entries => do
    match ← fieldOf? fields key with
    | some field =>
      if field.name ∈ seen then .error .mismatch
      else
        let s ← field.read v s
        readEntries fields (field.name :: seen) s entries
    | none => readEntries fields seen s entries

/-- What is known after the items of a list. -/
def readItems (s : σ) : List (Field (Except Fault) Value σ) → List Value → Except Fault σ
  | fields, [] => Field.rest fields s
  | [], _ :: _ => .error .mismatch
  | field :: fields, v :: items => do
    let s ← field.read v s
    readItems s fields items

/-- A record with known fields that is given by names. -/
def membersOf (fields : List (Field (Except Fault) Value σ)) (start : σ) : Value → Except Fault σ
  | .mapping entries => do
    let (seen, s) ← readEntries fields [] start entries
    Field.complete fields seen s
  | _ => .error .mismatch

/-- A record with known fields. -/
def recordOf (fields : List (Field (Except Fault) Value σ)) (start : σ) : Value → Except Fault σ
  | .list items => readItems start fields items
  | v => membersOf fields start v

/-- Whether a value is nothing at all, or a mapping without entries. -/
def isUnit : Value → Bool
  | .null => true
  | .mapping [] => true
  | _ => false

/-- One of several words, as a text or as the only key of a mapping that has nothing
under it. -/
def wordOf (words : Words α) (isNothing : Value → Bool) : Value → Except Fault α
  | .text w => words.find? w
  | .mapping [(key, v)] => do
    let a ← match key with
      | .text w => words.find? w
      | .natural n => expect (words[n]?.map (·.2))
      | _ => .error .mismatch
    if isNothing v then .ok a else .error .mismatch
  | _ => .error .mismatch

/-- Whether a value is null. -/
def isNull : Value → Bool
  | .null => true
  | _ => false

mutual

/-- How deep lists and mappings are nested. -/
def depth : Value → Nat
  | .list items => listDepth items + 1
  | .mapping entries => entriesDepth entries + 1
  | _ => 0

/-- How deep the items of a list are nested. -/
def listDepth : List Value → Nat
  | [] => 0
  | v :: vs => max (depth v) (listDepth vs)

/-- How deep the entries of a mapping are nested. -/
def entriesDepth : List (Value × Value) → Nat
  | [] => 0
  | (_, v) :: entries => max (depth v) (entriesDepth entries)

end

end Value

end ClientGen
