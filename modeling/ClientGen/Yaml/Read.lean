import ClientGen.Yaml.Anchor
import ClientGen.Yaml.Core
import ClientGen.Yaml.Layout

/-!
# YAML texts

`read?` gives a reader the node of a YAML text, if the text is well formed and holds at
most one document.  In place of an alias stands the node it means, as a repeated one.
Lists and records may be nested 128 deep, the ones behind aliases included, and
repeated nodes may be read a hundred times for each part of the text; what is beyond
cannot be read.
-/

namespace ClientGen.Yaml

/-- How deep lists and records may be nested. -/
def maxDepth : Nat := 128

/-- How often repeated nodes may be read for each part of a text. -/
def maxRepeats : Nat := 100

/-- Something beyond the limits. -/
def beyond : Node := .unreadable .mismatch none

/-- A node with a tag; one that is not a common one labels it. -/
def withTag (tag : Option Octets) (n : Node) : Node :=
  if (ownTag? tag).isSome then .labelled n else n

/-- What aliases mean at some depth, each found out when it is asked for. -/
abbrev Meanings := List (Nat × Thunk Node)

/-- The node of a tree, given what aliases mean in its place, and what they mean in the
lists and records inside, as deep as those may be nested. -/
def toNode : List Meanings → Meanings → Tree Nat → Node
  | _, here, .aliasOf n =>
    match here.lookup n with
    | some node => .repeated node.get
    | none => beyond
  | _, _, .scalar labels style text => withTag labels.tag (.scalar (scalarOf labels.tag style text))
  | [], _, .list _ _ => beyond
  | [], _, .record _ _ => beyond
  | next :: inner, _, .list labels items =>
    withTag labels.tag (.list (items.map (toNode inner next)) none)
  | next :: inner, _, .record labels members =>
    let member := fun (m : Tree Nat × Tree Nat) => (toNode inner next m.1, toNode inner next m.2)
    withTag labels.tag (.record (members.map member) none)

/-- What aliases mean in lists and records that may still be nested so deep, the outer
ones first. -/
def meanings (anchored : List (Nat × Tree Nat)) : Nat → List Meanings
  | 0 => []
  | depth + 1 =>
    let inner := meanings anchored depth
    (anchored.map fun (n, t) => (n, ⟨fun _ => toNode inner [] t⟩)) :: inner

/-- What a text without any document stands for. -/
def nothing : Node := .scalar { value? := some .null, null? := some true, isEmpty := true }

/-- What is made of a document; the last node of a number is the one that is meant. -/
def ofTree? (read : Node → Reading α) (t : Tree String) : Option α := do
  let (t, _) ← t.number? []
  let node := toNode (meanings t.anchored.reverse maxDepth) [] t
  ((read node).run' (maxRepeats * t.size)).toOption

/-- What is made of a YAML text. -/
def read? (read : Node → Reading α) (text : String) : Option α := do
  let tokens ← tokens? text
  match ← document? tokens with
  | none => ((read nothing).run' 0).toOption
  | some t => ofTree? read t

end ClientGen.Yaml
