import ClientGen.Yaml.Tree

/-!
# Anchors and aliases

An anchor names a node, and an alias means the node whose anchor was the last one of
that name in front of it.  Nodes are told apart by numbers: an anchor gets as its
number how many names there are in front of it.  A name that is given again takes a
number that another anchor may get too, and then the last node of that number is meant.
-/

namespace ClientGen.Yaml

/-- The numbers of the names so far. -/
abbrev Names := List (String × Nat)

/-- A number for a name, which need not be new. -/
def Names.add (names : Names) (name : String) : Nat × Names :=
  (names.length, (name, names.length) :: names.filter fun e => e.1 != name)

/-- The labels with a number for the anchor. -/
def Labels.number (labels : Labels String) (names : Names) : Labels Nat × Names :=
  match labels.anchor with
  | none => (⟨none, labels.tag⟩, names)
  | some a =>
    let (n, names) := names.add a
    (⟨some n, labels.tag⟩, names)

namespace Tree

mutual

/-- The tree with numbers for names, and the names behind it; an alias must mean a node
in front of it. -/
def number? (names : Names) : Tree String → Option (Tree Nat × Names)
  | aliasOf name => (names.lookup name).map fun n => (.aliasOf n, names)
  | scalar labels style text =>
    let (labels, names) := labels.number names
    some (.scalar labels style text, names)
  | list labels items => do
    let (labels, names) := labels.number names
    let (items, names) ← numberItems? names items
    some (.list labels items, names)
  | record labels members => do
    let (labels, names) := labels.number names
    let (members, names) ← numberMembers? names members
    some (.record labels members, names)

/-- The items with numbers for names. -/
def numberItems? (names : Names) : List (Tree String) → Option (List (Tree Nat) × Names)
  | [] => some ([], names)
  | t :: ts => do
    let (t, names) ← number? names t
    let (ts, names) ← numberItems? names ts
    some (t :: ts, names)

/-- The members with numbers for names. -/
def numberMembers? (names : Names) :
    List (Tree String × Tree String) → Option (List (Tree Nat × Tree Nat) × Names)
  | [] => some ([], names)
  | (key, value) :: members => do
    let (key, names) ← number? names key
    let (value, names) ← number? names value
    let (members, names) ← numberMembers? names members
    some ((key, value) :: members, names)

end

mutual

/-- The nodes that have an anchor, the outer ones in front of the inner ones. -/
def anchored : Tree α → List (α × Tree α)
  | aliasOf _ => []
  | scalar labels style text => labels.anchor.toList.map fun a => (a, scalar labels style text)
  | list labels items =>
    (labels.anchor.toList.map fun a => (a, list labels items)) ++ anchoredItems items
  | record labels members =>
    (labels.anchor.toList.map fun a => (a, record labels members)) ++ anchoredMembers members

/-- The items that have an anchor. -/
def anchoredItems : List (Tree α) → List (α × Tree α)
  | [] => []
  | t :: ts => anchored t ++ anchoredItems ts

/-- The keys and values that have an anchor. -/
def anchoredMembers : List (Tree α × Tree α) → List (α × Tree α)
  | [] => []
  | (key, value) :: members => anchored key ++ (anchored value ++ anchoredMembers members)

end

mutual

/-- The number of scalars, aliases and ends of lists and records. -/
def size : Tree α → Nat
  | aliasOf _ => 1
  | scalar _ _ _ => 1
  | list _ items => sizeItems items + 2
  | record _ members => sizeMembers members + 2

/-- The size of some items. -/
def sizeItems : List (Tree α) → Nat
  | [] => 0
  | t :: ts => size t + sizeItems ts

/-- The size of some members. -/
def sizeMembers : List (Tree α × Tree α) → Nat
  | [] => 0
  | (key, value) :: members => size key + size value + sizeMembers members

end

end Tree

end ClientGen.Yaml
