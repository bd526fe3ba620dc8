/-!
# Sets of names

A `NameSet` holds texts without repetitions and in ascending order of their code
points, so that a set has one form and is written out in that form.

* `mem_insert`: inserting adds the name and keeps the others;
* `mem_ofList`: a set made from a list has the members of the list.
-/

namespace ClientGen

/-- A set of texts in ascending order. -/
structure NameSet where
  /-- The members, ascending. -/
  toList : List String := []
  deriving DecidableEq, Repr

namespace NameSet

instance : EmptyCollection NameSet := ⟨{}⟩

/-- Puts a text at its place in an ascending list, unless it is there. -/
def insertInto (s : String) : List String → List String
  | [] => [s]
  | t :: rest =>
    if s < t then s :: t :: rest
    else if s = t then t :: rest
    else t :: insertInto s rest

/-- The set with one name more. -/
def insert (set : NameSet) (name : String) : NameSet := ⟨insertInto name set.toList⟩

/-- The set with the names of a list added. -/
def insertAll (set : NameSet) (names : List String) : NameSet := names.foldl insert set

/-- The set of the names of a list. -/
def ofList (names : List String) : NameSet := insertAll ∅ names

/-- The names of either set. -/
def union (a b : NameSet) : NameSet := a.insertAll b.toList

instance : Membership String NameSet := ⟨fun set name => name ∈ set.toList⟩

instance (name : String) (set : NameSet) : Decidable (name ∈ set) :=
  inferInstanceAs (Decidable (name ∈ set.toList))

variable {s t : String} {set : NameSet}

/-- A set has the names in its list. -/
theorem mem_iff : t ∈ set ↔ t ∈ set.toList := Iff.rfl

/-- Insertion adds the one name. -/
theorem mem_insertInto {l : List String} : t ∈ insertInto s l ↔ t = s ∨ t ∈ l := by
  induction l with
  | nil => simp [insertInto]
  | cons a rest ih =>
    simp only [insertInto]
    split
    · simp
    · split
      · next h => subst h; simp
      · simp [ih]; grind

@[simp] theorem not_mem_empty : t ∉ (∅ : NameSet) := by
  simp [mem_iff, EmptyCollection.emptyCollection]

@[simp] theorem mem_insert : t ∈ set.insert s ↔ t = s ∨ t ∈ set := mem_insertInto

@[simp] theorem mem_insertAll {l : List String} : t ∈ set.insertAll l ↔ t ∈ set ∨ t ∈ l := by
  induction l generalizing set with
  | nil => simp [insertAll]
  | cons a rest ih =>
    have h : set.insertAll (a :: rest) = (set.insert a).insertAll rest := rfl
    rw [h, ih]
    simp; grind

@[simp] theorem mem_ofList {l : List String} : t ∈ ofList l ↔ t ∈ l := by simp [ofList]

end NameSet

end ClientGen
