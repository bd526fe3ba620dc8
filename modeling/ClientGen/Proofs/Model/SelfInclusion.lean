import ClientGen.Proofs.Model.Merging

/-!
# A definition and a reference to it

The properties of a declared schema can be listed from its definition or from a reference
to it.  The two walks differ in one thing: behind a reference the key counts as entered, so
the definition is not entered again from within, while a walk that begins with the
definition itself enters it once more when a member leads back to it.

What they meet is the same nevertheless, only not in the same order, unless the definition
does not include itself.

* `partsFrom_congr`: a key that is never met may count as entered or not;
* `Walked.exists_parts`: where one walk has come to its end, so does the other;
* `flatten_ref_perm`: the names are the same;
* `flatten_ref_of_not_includes`: without self-inclusion all is the same.
-/

namespace ClientGen.Schemas

variable {schemas : Schemas} {key path : String}

/-- The members of a composition lead to a key, directly or behind other references. -/
inductive Includes (schemas : Schemas) (key : String) : OrRef Schema → Prop
  | target {path : String} (href : schemas.Refers path key) : Includes schemas key (.ref path)
  | member {s : Schema} {m : OrRef Schema} (hm : m ∈ s.allOf) (h : Includes schemas key m) :
      Includes schemas key (.inline s)
  | through {path other : String} {s : OrRef Schema} (href : schemas.Refers path other)
      (hs : schemas.lookup other = some s) (h : Includes schemas key s) :
      Includes schemas key (.ref path)

/-- The definition of a key includes the key itself. -/
def IncludesItself (schemas : Schemas) (key : String) : Prop :=
  ∃ s, schemas.lookup key = some s ∧ schemas.Includes key s

/-- A reference that does not include a key refers to another one. -/
theorem ne_of_not_includes {other : String} (href : schemas.Refers path other)
    (h : ¬ schemas.Includes key (.ref path)) : other ≠ key := by
  rintro rfl
  exact h (.target href)

/-! ### Walks that differ in what was entered -/

/-- A reference to a declared key goes on with its definition unless that was entered before. -/
theorem partsFrom_ref {entered : List String} {agenda : List WalkStep} {s : OrRef Schema}
    (href : schemas.Refers path key) (hs : schemas.lookup key = some s) :
    schemas.partsFrom entered (.enter (.ref path) :: agenda) =
      if key ∈ entered then schemas.partsFrom entered agenda
      else schemas.partsFrom (key :: entered) (.enter s :: agenda) := by
  by_cases hentered : key ∈ entered
  · rw [if_pos hentered, partsFrom_again href hentered]
  · rw [if_neg hentered, partsFrom_follow (keyOf_eq_ok_iff.mpr href) hentered hs]

/-- **Keys that are never met.**  If nothing on the agenda includes a key, it makes no
difference whether that key was entered before. -/
theorem partsFrom_congr {entered others : List String} {agenda : List WalkStep}
    (hagenda : ∀ s, .enter s ∈ agenda → ¬ schemas.Includes key s)
    (hothers : ∀ other, other ≠ key → (other ∈ entered ↔ other ∈ others)) :
    schemas.partsFrom entered agenda = schemas.partsFrom others agenda := by
  fun_induction partsFrom schemas entered agenda generalizing others with
  | case1 => rw [partsFrom]
  | case2 entered s rest ih =>
      rw [partsFrom, ih (fun t ht => hagenda t (List.mem_cons_of_mem _ ht)) hothers]
  | case3 entered s rest ih =>
      rw [partsFrom]
      refine ih (fun t ht => ?_) hothers
      rcases List.mem_append.mp ht with hmember | hrest
      · obtain ⟨m, hm, heq⟩ := List.mem_map.mp hmember
        cases heq
        exact fun hincludes => hagenda _ List.mem_cons_self (.member hm hincludes)
      · have hrest := (List.mem_cons.mp hrest).resolve_left (by simp)
        exact hagenda t (List.mem_cons_of_mem _ hrest)
  | case4 entered path rest e hpath => rw [partsFrom_error hpath]
  | case5 entered path rest other hpath hentered ih =>
      have href := keyOf_eq_ok_iff.mp hpath
      have hne := ne_of_not_includes href (hagenda _ List.mem_cons_self)
      rw [partsFrom_again href ((hothers other hne).mp hentered)]
      exact ih (fun t ht => hagenda t (List.mem_cons_of_mem _ ht)) hothers
  | case6 entered path rest other hpath hnew hnone =>
      obtain ⟨s, hs⟩ := exists_lookup_of_refers (keyOf_eq_ok_iff.mp hpath)
      cases hs.symm.trans hnone
  | case7 entered path rest other hpath hnew s hs ih =>
      have href := keyOf_eq_ok_iff.mp hpath
      have hne := ne_of_not_includes href (hagenda _ List.mem_cons_self)
      rw [partsFrom_follow hpath (fun h => hnew ((hothers other hne).mpr h)) hs]
      refine ih (fun t ht => ?_) fun k hk => by rw [List.mem_cons, List.mem_cons, hothers k hk]
      rcases List.mem_cons.mp ht with heq | hrest
      · cases heq
        exact fun hincludes => hagenda _ List.mem_cons_self (.through href hs hincludes)
      · exact hagenda t (List.mem_cons_of_mem _ hrest)

/-- **Success.**  What a walk from the start has visited is closed, so a walk within it finds
every reference declared, whatever was entered before. -/
theorem Walked.exists_parts {start agenda : List WalkStep} {parts : List Schema}
    {visited : Set (OrRef Schema)} {entered : List String}
    (h : schemas.Walked [] start parts visited) (hagenda : ∀ s, .enter s ∈ agenda → s ∈ visited) :
    ∃ parts', schemas.partsFrom entered agenda = .ok parts' := by
  have hdeclared : ∀ path, .ref path ∈ visited → ∃ key s, schemas.keyOf path = .ok key ∧
      schemas.lookup key = some s ∧ s ∈ visited := by
    intro path hpath
    obtain ⟨key, hkey, hknown⟩ := h.refs path hpath
    obtain ⟨s, hs, hvisited⟩ := hknown.resolve_left List.not_mem_nil
    exact ⟨key, s, hkey, hs, hvisited⟩
  fun_induction partsFrom schemas entered agenda with
  | case1 => exact ⟨[], rfl⟩
  | case2 entered s rest ih =>
      obtain ⟨tail, htail⟩ := ih fun t ht => hagenda t (List.mem_cons_of_mem _ ht)
      exact ⟨s :: tail, map_eq_ok_iff.mpr ⟨tail, htail, rfl⟩⟩
  | case3 entered s rest ih =>
      refine ih fun t ht => ?_
      rcases List.mem_append.mp ht with hmember | hrest
      · obtain ⟨m, hm, heq⟩ := List.mem_map.mp hmember
        cases heq
        exact (h.inlines s (hagenda _ List.mem_cons_self)).2 _ hm
      · have hrest := (List.mem_cons.mp hrest).resolve_left (by simp)
        exact hagenda t (List.mem_cons_of_mem _ hrest)
  | case4 entered path rest e hpath =>
      obtain ⟨key, _, hkey, _⟩ := hdeclared path (hagenda _ List.mem_cons_self)
      cases hpath.symm.trans hkey
  | case5 entered path rest key _ _ ih =>
      exact ih fun t ht => hagenda t (List.mem_cons_of_mem _ ht)
  | case6 entered path rest key hpath _ hnone =>
      obtain ⟨s, hs⟩ := exists_lookup_of_refers (keyOf_eq_ok_iff.mp hpath)
      cases hs.symm.trans hnone
  | case7 entered path rest key hpath _ s hs ih =>
      obtain ⟨other, t, hother, ht, hvisited⟩ := hdeclared path (hagenda _ List.mem_cons_self)
      obtain rfl : key = other := Except.ok.inj (hpath.symm.trans hother)
      obtain rfl : s = t := Option.some.inj (hs.symm.trans ht)
      refine ih fun u hu => ?_
      rcases List.mem_cons.mp hu with heq | hrest
      · cases heq
        exact hvisited
      · exact hagenda u (List.mem_cons_of_mem _ hrest)

/-! ### Properties -/

/-- The names that are listed are those that some part declares. -/
theorem mem_names_flatten_iff {s : OrRef Schema} {flat : List FlatProperty} {name : String}
    (h : schemas.flatten s = .ok flat) :
    name ∈ names flat ↔ ∃ part, schemas.Merges s part ∧ part.DeclaresName name := by
  obtain ⟨parts, hparts, rfl⟩ := map_eq_ok_iff.mp h
  rw [(mergedFrom_parts parts).names_eq, List.mem_eraseDups, List.map_flatMap, List.mem_flatMap]
  simp only [mem_parts_iff hparts, Schema.DeclaresName]

/-- The properties of an object have different names. -/
theorem nodup_names_flatten {s : OrRef Schema} {flat : List FlatProperty}
    (h : schemas.flatten s = .ok flat) : (names flat).Nodup := by
  obtain ⟨parts, _, rfl⟩ := map_eq_ok_iff.mp h
  exact (mergedFrom_parts parts).nodup

/-- A reference has the parts of what it refers to. -/
theorem merges_ref_iff {s : OrRef Schema} {part : Schema} (href : schemas.Refers path key)
    (hs : schemas.lookup key = some s) :
    schemas.Merges (.ref path) part ↔ schemas.Merges s part := by
  constructor
  · intro h
    cases h with
    | @target _ other t _ hother ht hpart =>
        have hsame : other = key := by
          have h := (keyOf_eq_ok_iff.mpr hother).symm.trans (keyOf_eq_ok_iff.mpr href)
          exact Except.ok.inj h
        subst hsame
        rwa [Option.some.inj (hs.symm.trans ht)]
  · exact .target href hs

/-- **The same names.**  If a definition can be flattened, so can a reference to it, and the
names of the properties are the same, in some order. -/
theorem flatten_ref_perm {s : OrRef Schema} {flat : List FlatProperty}
    (href : schemas.Refers path key) (hs : schemas.lookup key = some s)
    (h : schemas.flatten s = .ok flat) :
    ∃ flat', schemas.flatten (.ref path) = .ok flat' ∧ (names flat').Perm (names flat) := by
  obtain ⟨parts, hparts, _⟩ := map_eq_ok_iff.mp h
  obtain ⟨visited, hwalked⟩ := exists_walked hparts
  have hvisited : ∀ t, .enter t ∈ [WalkStep.enter s] → t ∈ visited := fun t ht => by
    cases List.mem_singleton.mp ht
    exact hwalked.enters s List.mem_cons_self
  obtain ⟨parts', hparts'⟩ : ∃ parts', schemas.partsFrom [key] [.enter s] = .ok parts' :=
    hwalked.exists_parts hvisited
  have href' : schemas.parts (.ref path) = .ok parts' := by
    rw [Schemas.parts, partsFrom_follow (keyOf_eq_ok_iff.mpr href) List.not_mem_nil hs]
    exact hparts'
  have hflat' : schemas.flatten (.ref path) = .ok (parts'.foldl addPart []) :=
    map_eq_ok_iff.mpr ⟨parts', href', rfl⟩
  refine ⟨_, hflat', ?_⟩
  refine (List.perm_ext_iff_of_nodup (nodup_names_flatten hflat') (nodup_names_flatten h)).mpr ?_
  intro name
  simp only [mem_names_flatten_iff hflat', mem_names_flatten_iff h, merges_ref_iff href hs]

/-- **The same properties.**  If a definition does not include itself, a reference to it has
exactly its properties. -/
theorem flatten_ref_of_not_includes {s : OrRef Schema} (href : schemas.Refers path key)
    (hs : schemas.lookup key = some s) (h : ¬ schemas.Includes key s) :
    schemas.flatten (.ref path) = schemas.flatten s := by
  have hagenda : ∀ t, .enter t ∈ [WalkStep.enter s] → ¬ schemas.Includes key t := fun t ht => by
    cases List.mem_singleton.mp ht
    exact h
  have hparts : schemas.parts (.ref path) = schemas.parts s := by
    rw [Schemas.parts, partsFrom_follow (keyOf_eq_ok_iff.mpr href) List.not_mem_nil hs]
    exact partsFrom_congr hagenda fun other hne => by simp [hne]
  rw [flatten, flatten, hparts]

end ClientGen.Schemas
