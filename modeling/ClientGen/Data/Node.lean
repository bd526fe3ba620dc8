import ClientGen.Data.Value

/-!
# What was read, with its faults

A text need not be well formed to its end to be of some use: it is read from left
to right, and the first thing that is wrong decides how it is refused, be it the
text or the meaning that is wrong.  So reading a text gives a `Node` whatever the
text is.  A node keeps a fault where it was met; `value` finds the first fault of a
node that is read, and `skipFault?` the first one of a node that is passed over,
which may be later, since what is passed over is looked at less closely.

A scalar knows everything it may stand for, since some notations leave that open
until it is known what is expected.  A node that stands in several places is repeated
in all but the first; how often repeated nodes may be read is limited, while they may
be passed over at will.
-/

namespace ClientGen

/-- The notations in which things are written. -/
inductive Format where
  | json
  | yaml
  deriving DecidableEq, Repr

/-- Whether a word may be written as the key of a record. -/
def Format.wordsInRecords : Format → Bool
  | json => true
  | yaml => false

/-- Whether a record with known fields may be written as the list of their values. -/
def Format.recordsInLists : Format → Bool
  | json => true
  | yaml => false

/-- What is wrong with a text. -/
inductive Fault where
  /-- It does not follow the notation. -/
  | malformed
  /-- It ends too early. -/
  | truncated
  /-- It says something else than what is expected. -/
  | mismatch
  deriving DecidableEq, Repr

/-- A place where reading cannot go on: the fault if what stands there is read, and the
fault if it is passed over. -/
structure Stop where
  read : Fault
  skip : Fault
  deriving DecidableEq, Repr

/-- A place where reading cannot go on in either way. -/
def Fault.stop (f : Fault) : Stop := ⟨f, f⟩

/-- What a scalar may stand for. -/
structure Scalar where
  /-- Where a text is expected. -/
  text? : Option String := none
  /-- Where a truth value is expected. -/
  bool? : Option Bool := none
  /-- Where one of several words is expected. -/
  word? : Option String := none
  /-- Where nothing in particular is expected. -/
  value? : Option Value := none
  /-- Where something may be missing: whether nothing is there, unless that is not clear. -/
  null? : Option Bool := some false
  /-- Whether it stands for a list or record without anything in it. -/
  isEmpty : Bool := false
  deriving Repr

/-- Something that was read. -/
inductive Node where
  /-- A fault, and another one if it cannot even be passed over. -/
  | unreadable (read : Fault) (skip : Option Fault)
  | scalar (s : Scalar)
  /-- A node that stands at another place too. -/
  | repeated (n : Node)
  /-- A node with a label of its own, which makes sense only to a reader that knows what
  to expect. -/
  | labelled (n : Node)
  /-- Items, and a stop if the list is not closed behind them. -/
  | list (items : List Node) (ending : Option Stop)
  /-- Keys and values, and a stop if the record is not closed behind them. -/
  | record (members : List (Node × Node)) (ending : Option Stop)
  deriving Repr

instance : Inhabited Node := ⟨.unreadable .malformed none⟩

/-- What is made of a node: the first fault, or an answer.  The state is how many repeated
nodes may still be read. -/
abbrev Reading := StateT Nat (Except Fault)

/-- A fault in place of an answer. -/
def Fault.raise (f : Fault) : Reading α := throw f

/-- An answer that may be a fault. -/
def Reading.ofExcept (e : Except Fault α) : Reading α := fun left => e.map fun a => (a, left)

namespace Node

mutual

/-- The first fault of a node that is passed over. -/
def skipFault? : Node → Option Fault
  | unreadable _ skip => skip
  | scalar _ => none
  | repeated _ => none
  | labelled n => skipFault? n
  | list items ending => (skipItems? items).or (ending.map (·.skip))
  | record members ending => (skipMembers? members).or (ending.map (·.skip))

/-- The first fault of items that are passed over. -/
def skipItems? : List Node → Option Fault
  | [] => none
  | item :: items => (skipFault? item).or (skipItems? items)

/-- The first fault of members that are passed over. -/
def skipMembers? : List (Node × Node) → Option Fault
  | [] => none
  | (key, value) :: members =>
    ((skipFault? key).or (skipFault? value)).or (skipMembers? members)

end

/-- The node without labels. -/
def bare : Node → Node
  | labelled n => bare n
  | n => n

/-- Counts that a repeated node is read. -/
def repeatOnce : Reading Unit := do
  match ← get with
  | 0 => Fault.mismatch.raise
  | left + 1 => set left

/-- The node that is read in place of a repeated one. -/
def meant : Node → Reading Node
  | repeated n => do
    repeatOnce
    meant n
  | n => return n

/-- What is left to do at the end of a list or record. -/
def finish (ending : Option Stop) (a : α) : Reading α :=
  match ending with
  | some stop => stop.read.raise
  | none => return a

mutual

/-- The node as an untyped value, if it can be read to its end. -/
def value : Node → Reading Value
  | unreadable read _ => read.raise
  | scalar s =>
    match s.value? with
    | some v => return v
    | none => Fault.mismatch.raise
  | repeated n => do
    repeatOnce
    value n
  | labelled _ => Fault.mismatch.raise
  | list items ending => do
    let vs ← values items
    finish ending (.list vs)
  | record members ending => do
    let entries ← entries members
    finish ending (.mapping entries)

/-- The items as untyped values. -/
def values : List Node → Reading (List Value)
  | [] => return []
  | item :: items => do
    let v ← value item
    let vs ← values items
    return v :: vs

/-- The members as untyped values. -/
def entries : List (Node × Node) → Reading (List (Value × Value))
  | [] => return []
  | (key, item) :: members => do
    let k ← value key
    let v ← value item
    let rest ← entries members
    return (k, v) :: rest

end

end Node

end ClientGen
