import ClientGen.NameSet
import Mathlib.Data.List.Sort
import Mathlib.Data.String.Basic

/-!
# Sets of names have one form

The members of a `NameSet` are kept in ascending order.  Everything that is built
up from the empty set by insertion is `Ascending`, and two such sets with the same
members are the same list, so sets that are put together in different orders can
be compared by their members alone.

* `Ascending.insertAll`, `ascending_ofList`: building a set keeps the order;
* `Ascending.eq_of_mem_iff`: the members settle the set;
* `mem_foldl_union`: the members of a union of several sets.
-/

namespace ClientGen.NameSet

/-- The members stand in ascending order, each once. -/
def Ascending (set : NameSet) : Prop := set.toList.Pairwise (· < ·)

theorem ascending_empty : (∅ : NameSet).Ascending := List.Pairwise.nil

/-- Insertion keeps a list in order. -/
private theorem pairwise_insertInto {s : String} {l : List String} (h : l.Pairwise (· < ·)) :
    (insertInto s l).Pairwise (· < ·) := by
  induction l with
  | nil => exact List.pairwise_singleton _ _
  | cons t rest ih =>
      obtain ⟨hhead, hrest⟩ := List.pairwise_cons.mp h
      rw [insertInto]
      split
      next hlt =>
        refine List.pairwise_cons.mpr ⟨?_, h⟩
        intro u hu
        rcases List.mem_cons.mp hu with rfl | hu
        · exact hlt
        · exact lt_trans hlt (hhead u hu)
      next hnot =>
        split
        · exact h
        next hne =>
          have hlt : t < s := (lt_trichotomy s t).resolve_left hnot |>.resolve_left hne
          refine List.pairwise_cons.mpr ⟨?_, ih hrest⟩
          intro u hu
          rcases mem_insertInto.mp hu with rfl | hu
          · exact hlt
          · exact hhead u hu

/-- Insertion keeps a set in order. -/
theorem Ascending.insert {set : NameSet} (h : set.Ascending) (s : String) :
    (set.insert s).Ascending :=
  pairwise_insertInto h

/-- Insertion of several names keeps a set in order. -/
theorem Ascending.insertAll {set : NameSet} (h : set.Ascending) (names : List String) :
    (set.insertAll names).Ascending := by
  induction names generalizing set with
  | nil => exact h
  | cons s rest ih => exact ih (h.insert s)

theorem ascending_ofList (names : List String) : (ofList names).Ascending :=
  ascending_empty.insertAll names

/-- The set of a longer list has one more name. -/
theorem ofList_concat (names : List String) (name : String) :
    ofList (names ++ [name]) = (ofList names).insert name := by
  simp [ofList, insertAll]

/-- **Extensionality.**  Sets with the same members are the same. -/
theorem Ascending.eq_of_mem_iff {a b : NameSet} (ha : a.Ascending) (hb : b.Ascending)
    (h : ∀ s, s ∈ a ↔ s ∈ b) : a = b := by
  obtain ⟨as⟩ := a
  obtain ⟨bs⟩ := b
  exact congrArg mk (List.Pairwise.eq_of_mem_iff ha hb h)

/-- A union has the names of both sets. -/
@[simp] theorem mem_union {a b : NameSet} {s : String} : s ∈ a.union b ↔ s ∈ a ∨ s ∈ b :=
  mem_insertAll

/-- The members of the union of the sets of some items. -/
theorem mem_foldl_union {α : Type} (f : α → NameSet) (items : List α) {start : NameSet}
    {s : String} :
    s ∈ items.foldl (fun found item => found.union (f item)) start ↔
      s ∈ start ∨ ∃ item ∈ items, s ∈ f item := by
  induction items generalizing start with
  | nil => simp
  | cons item rest ih =>
      rw [List.foldl_cons, ih, mem_union, List.exists_mem_cons_iff, or_assoc]

/-- Unions keep a set in order. -/
theorem Ascending.foldl_union {α : Type} (f : α → NameSet) (items : List α) {start : NameSet}
    (h : start.Ascending) :
    (items.foldl (fun found item => found.union (f item)) start).Ascending := by
  induction items generalizing start with
  | nil => exact h
  | cons item rest ih => exact ih (h.insertAll _)

end ClientGen.NameSet
