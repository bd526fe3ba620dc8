import ClientGen.Proofs.Model.Composition
import Mathlib.Data.Set.Insert

/-!
# A walk meets all parts

A walk through a composition enters each key once and follows no reference twice, and yet
it leaves nothing out.  What carries the proof is the set of schemas that are visited: the
members of a visited schema are visited, and so is what a visited reference refers to,
unless it was entered before the walk.

* `exists_walked`: the set of the visited schemas;
* `mem_parts_iff`: the parts that a walk meets are those that the schema merges.
-/

namespace ClientGen.Schemas

variable {schemas : Schemas}

/-- What a walk through an agenda has met in the end, given the schemas it has visited and
the keys that were entered before. -/
structure Walked (schemas : Schemas) (entered : List String) (agenda : List WalkStep)
    (parts : List Schema) (visited : Set (OrRef Schema)) : Prop where
  enters : ∀ s, .enter s ∈ agenda → s ∈ visited
  leaves : ∀ s, .leave s ∈ agenda → s ∈ parts
  inlines : ∀ s, .inline s ∈ visited → s ∈ parts ∧ ∀ m ∈ s.allOf, m ∈ visited
  refs : ∀ path, .ref path ∈ visited → ∃ key, schemas.keyOf path = .ok key ∧
    (key ∈ entered ∨ ∃ s, schemas.lookup key = some s ∧ s ∈ visited)

/-- Where there is nothing to do, nothing is yielded. -/
theorem walked_nil {entered : List String} : schemas.Walked entered [] [] ∅ where
  enters := fun _ h => absurd h List.not_mem_nil
  leaves := fun _ h => absurd h List.not_mem_nil
  inlines := fun _ h => absurd h (Set.notMem_empty _)
  refs := fun _ h => absurd h (Set.notMem_empty _)

variable {entered : List String} {rest : List WalkStep} {parts : List Schema}
  {visited : Set (OrRef Schema)}

/-- More that is visited leaves what was entered before or visited. -/
theorem known_insert {key : String} {t : OrRef Schema}
    (h : key ∈ entered ∨ ∃ s, schemas.lookup key = some s ∧ s ∈ visited) :
    key ∈ entered ∨ ∃ s, schemas.lookup key = some s ∧ s ∈ insert t visited := by
  rcases h with hentered | ⟨s, hs, hvisited⟩
  · exact .inl hentered
  · exact .inr ⟨s, hs, Set.mem_insert_of_mem _ hvisited⟩

/-- A schema whose members have been walked is met. -/
theorem Walked.leave {s : Schema} (h : schemas.Walked entered rest parts visited) :
    schemas.Walked entered (.leave s :: rest) (s :: parts) visited where
  enters := fun t ht => h.enters t ((List.mem_cons.mp ht).resolve_left (by simp))
  leaves := fun t ht => by
    rcases List.mem_cons.mp ht with heq | ht
    · cases heq
      exact List.mem_cons_self
    · exact List.mem_cons_of_mem _ (h.leaves t ht)
  inlines := fun t ht => ⟨List.mem_cons_of_mem _ (h.inlines t ht).1, (h.inlines t ht).2⟩
  refs := h.refs

/-- A schema in place is met behind its members. -/
theorem Walked.inline {s : Schema}
    (h : schemas.Walked entered (WalkStep.through s rest) parts visited) :
    schemas.Walked entered (.enter (.inline s) :: rest) parts (insert (.inline s) visited) where
  enters := fun t ht => by
    rcases List.mem_cons.mp ht with heq | ht
    · cases heq
      exact Set.mem_insert _ _
    · exact Set.mem_insert_of_mem _ (h.enters t (by simp [WalkStep.through, ht]))
  leaves := fun t ht => by
    have hrest := (List.mem_cons.mp ht).resolve_left (by simp)
    exact h.leaves t (by simp [WalkStep.through, hrest])
  inlines := fun t ht => by
    rcases Set.mem_insert_iff.mp ht with heq | ht
    · cases heq
      refine ⟨h.leaves s (by simp [WalkStep.through]), fun m hm => ?_⟩
      exact Set.mem_insert_of_mem _ (h.enters m (by simp [WalkStep.through, hm]))
    · exact ⟨(h.inlines t ht).1, fun m hm => Set.mem_insert_of_mem _ ((h.inlines t ht).2 m hm)⟩
  refs := fun path hpath => by
    have hmem := (Set.mem_insert_iff.mp hpath).resolve_left (by simp)
    obtain ⟨key, hkey, hknown⟩ := h.refs path hmem
    exact ⟨key, hkey, known_insert hknown⟩

/-- A reference is visited if its key was entered before or its definition is visited. -/
theorem Walked.ref {path key : String} (h : schemas.Walked entered rest parts visited)
    (hkey : schemas.keyOf path = .ok key)
    (hknown : key ∈ entered ∨ ∃ s, schemas.lookup key = some s ∧ s ∈ visited) :
    schemas.Walked entered (.enter (.ref path) :: rest) parts (insert (.ref path) visited) where
  enters := fun t ht => by
    rcases List.mem_cons.mp ht with heq | ht
    · cases heq
      exact Set.mem_insert _ _
    · exact Set.mem_insert_of_mem _ (h.enters t ht)
  leaves := fun t ht => h.leaves t ((List.mem_cons.mp ht).resolve_left (by simp))
  inlines := fun t ht => by
    have hmem := (Set.mem_insert_iff.mp ht).resolve_left (by simp)
    exact ⟨(h.inlines t hmem).1, fun m hm => Set.mem_insert_of_mem _ ((h.inlines t hmem).2 m hm)⟩
  refs := fun other hother => by
    rcases Set.mem_insert_iff.mp hother with heq | hother
    · cases heq
      exact ⟨key, hkey, known_insert hknown⟩
    · obtain ⟨k, hk, hknown⟩ := h.refs other hother
      exact ⟨k, hk, known_insert hknown⟩

/-- What a key was entered for counts as entered before. -/
theorem Walked.forget {key : String} {s : OrRef Schema}
    (h : schemas.Walked (key :: entered) (.enter s :: rest) parts visited)
    (hs : schemas.lookup key = some s) : schemas.Walked entered rest parts visited where
  enters := fun t ht => h.enters t (List.mem_cons_of_mem _ ht)
  leaves := fun t ht => h.leaves t (List.mem_cons_of_mem _ ht)
  inlines := h.inlines
  refs := fun path hpath => by
    obtain ⟨k, hk, hknown⟩ := h.refs path hpath
    refine ⟨k, hk, ?_⟩
    rcases hknown with hentered | hknown
    · rcases List.mem_cons.mp hentered with rfl | hentered
      · exact .inr ⟨s, hs, h.enters s List.mem_cons_self⟩
      · exact .inl hentered
    · exact .inr hknown

/-- The first reference to a declared key goes on with its definition. -/
theorem partsFrom_follow {path key : String} {s : OrRef Schema}
    (hkey : schemas.keyOf path = .ok key) (hnew : key ∉ entered)
    (hs : schemas.lookup key = some s) :
    schemas.partsFrom entered (.enter (.ref path) :: rest) =
      schemas.partsFrom (key :: entered) (.enter s :: rest) := by
  rw [partsFrom, hkey]
  simp only [dif_neg hnew]
  split
  next hnone => cases hs.symm.trans hnone
  next t ht => rw [Option.some.inj (hs.symm.trans ht)]

/-- A reference to a key that is not declared ends the walk. -/
theorem partsFrom_missing {path key : String} (hkey : schemas.keyOf path = .ok key)
    (hnew : key ∉ entered) (hnone : schemas.lookup key = none) :
    schemas.partsFrom entered (.enter (.ref path) :: rest) = .error (.unknownModel key) := by
  rw [partsFrom, hkey]
  simp only [dif_neg hnew]
  split
  · rfl
  next s hs => cases hnone.symm.trans hs

/-- **The walk.**  A walk that succeeds has visited a set of schemas with nothing left out. -/
theorem exists_walked {agenda : List WalkStep} (h : schemas.partsFrom entered agenda = .ok parts) :
    ∃ visited, schemas.Walked entered agenda parts visited := by
  fun_induction partsFrom schemas entered agenda generalizing parts with
  | case1 entered =>
      cases h
      exact ⟨∅, walked_nil⟩
  | case2 entered s rest ih =>
      obtain ⟨tail, htail, rfl⟩ := map_eq_ok_iff.mp h
      obtain ⟨visited, hwalked⟩ := ih htail
      exact ⟨visited, hwalked.leave⟩
  | case3 entered s rest ih =>
      obtain ⟨visited, hwalked⟩ := ih h
      exact ⟨_, hwalked.inline⟩
  | case4 entered path rest e _ => cases h
  | case5 entered path rest key hkey hentered ih =>
      obtain ⟨visited, hwalked⟩ := ih h
      exact ⟨_, hwalked.ref hkey (.inl hentered)⟩
  | case6 entered path rest key _ _ _ => cases h
  | case7 entered path rest key hkey _ s hs ih =>
      obtain ⟨visited, hwalked⟩ := ih h
      have hdefinition : s ∈ visited := hwalked.enters s List.mem_cons_self
      exact ⟨_, (hwalked.forget hs).ref hkey (.inr ⟨s, hs, hdefinition⟩)⟩

/-- If no key was entered before, the parts of all visited schemas are met. -/
theorem Merges.mem_of_walked {agenda : List WalkStep} {s : OrRef Schema} {part : Schema}
    (h : schemas.Merges s part) (hwalked : schemas.Walked [] agenda parts visited)
    (hs : s ∈ visited) : part ∈ parts := by
  induction h with
  | self s => exact (hwalked.inlines s hs).1
  | @member s part m hm _ ih => exact ih ((hwalked.inlines s hs).2 m hm)
  | @target path key s part href hlookup _ ih =>
      obtain ⟨k, hk, hknown⟩ := hwalked.refs path hs
      have hkey : k = key := Except.ok.inj (hk.symm.trans (keyOf_eq_ok_iff.mpr href))
      subst hkey
      rcases hknown with hentered | ⟨t, ht, hvisited⟩
      · cases hentered
      · cases ht.symm.trans hlookup
        exact ih hvisited

/-- **All parts.**  A walk through a schema that succeeds meets exactly its parts. -/
theorem mem_parts_iff {s : OrRef Schema} {part : Schema} (h : schemas.parts s = .ok parts) :
    part ∈ parts ↔ schemas.Merges s part := by
  constructor
  · exact merges_of_mem_parts h
  · intro hpart
    obtain ⟨visited, hwalked⟩ := exists_walked h
    exact hpart.mem_of_walked hwalked (hwalked.enters s List.mem_cons_self)

end ClientGen.Schemas
