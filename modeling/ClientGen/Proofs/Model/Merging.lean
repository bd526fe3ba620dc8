import ClientGen.Proofs.Model.Required
import ClientGen.Proofs.Repetition

/-!
# What a walk through a composition merges

A schema is read from the inside out: the members of its composition first, one after
another, and then the properties of its own.  A reference is followed unless its key was
entered before, anywhere on the way.  `Meets` is that reading with the declarations it comes
by, `Stops` the same reading up to a reference that leads nowhere.  Neither knows of an
agenda; they follow the nesting of the schemas, and a list of schemas is read with the
keys entered so far handed on from each to the next.

* `meets_or_stops`: one of the two happens to every schema, however its references turn;
* `partsFrom_of_meets`, `partsFrom_of_stops`: the walk with an agenda does the same;
* `MergedFrom`: what the declarations leave behind, and that each step keeps it;
* `flatten_merges`: the properties of a schema with all its parts.
-/

namespace ClientGen.Schemas

variable {schemas : Schemas} {entered middle last : List String} {rest : List (OrRef Schema)}
  {e : ReferenceError}

/-- A property that is declared: its name and its schema. -/
abbrev Declaration := String × OrRef Schema

/-- Some schemas are read one after another, with some keys entered before and some in the
end, and these declarations are met on the way. -/
inductive Meets (schemas : Schemas) :
    List String → List (OrRef Schema) → List Declaration → List String → Prop
  | done (entered : List String) : Meets schemas entered [] [] entered
  | inline {entered middle last : List String} {s : Schema} {rest : List (OrRef Schema)}
      {inner later : List Declaration} (hmembers : Meets schemas entered s.allOf inner middle)
      (hrest : Meets schemas middle rest later last) :
      Meets schemas entered (.inline s :: rest) (inner ++ s.properties ++ later) last
  | again {entered last : List String} {path key : String} {rest : List (OrRef Schema)}
      {later : List Declaration} (href : schemas.Refers path key) (hentered : key ∈ entered)
      (hrest : Meets schemas entered rest later last) :
      Meets schemas entered (.ref path :: rest) later last
  | follow {entered last : List String} {path key : String} {s : OrRef Schema}
      {rest : List (OrRef Schema)} {later : List Declaration} (href : schemas.Refers path key)
      (hnew : key ∉ entered) (hs : schemas.lookup key = some s)
      (hrest : Meets schemas (key :: entered) (s :: rest) later last) :
      Meets schemas entered (.ref path :: rest) later last

/-- A reading of some schemas ends at the first reference that leads nowhere: its path is
malformed, or names a key that is not declared. -/
inductive Stops (schemas : Schemas) :
    List String → List (OrRef Schema) → ReferenceError → Prop
  | malformed {entered : List String} {path : String} {fault : PathFault}
      {rest : List (OrRef Schema)} (hpath : refName path "schemas" = .error fault) :
      Stops schemas entered (.ref path :: rest) (.invalidFormat fault)
  | undeclared {entered : List String} {key : String} {rest : List (OrRef Schema)}
      (hne : key ≠ "") (hslash : '/' ∉ key.toList) (hkey : key ∉ schemas.keys) :
      Stops schemas entered (.ref (refPath "schemas" key) :: rest) (.unknownModel key)
  | member {entered : List String} {s : Schema} {rest : List (OrRef Schema)} {e : ReferenceError}
      (h : Stops schemas entered s.allOf e) : Stops schemas entered (.inline s :: rest) e
  | later {entered middle : List String} {s : Schema} {rest : List (OrRef Schema)}
      {inner : List Declaration} {e : ReferenceError}
      (hmembers : Meets schemas entered s.allOf inner middle) (h : Stops schemas middle rest e) :
      Stops schemas entered (.inline s :: rest) e
  | again {entered : List String} {path key : String} {rest : List (OrRef Schema)}
      {e : ReferenceError} (href : schemas.Refers path key) (hentered : key ∈ entered)
      (h : Stops schemas entered rest e) : Stops schemas entered (.ref path :: rest) e
  | follow {entered : List String} {path key : String} {s : OrRef Schema}
      {rest : List (OrRef Schema)} {e : ReferenceError} (href : schemas.Refers path key)
      (hnew : key ∉ entered) (hs : schemas.lookup key = some s)
      (h : Stops schemas (key :: entered) (s :: rest) e) :
      Stops schemas entered (.ref path :: rest) e

/-! ### Every reading ends -/

/-- A path leads to no key if it is malformed or its key is not declared. -/
theorem keyOf_eq_error_iff {path : String} :
    schemas.keyOf path = .error e ↔
      (∃ fault, refName path "schemas" = .error fault ∧ e = .invalidFormat fault) ∨
      ∃ key, path = refPath "schemas" key ∧ key ≠ "" ∧ '/' ∉ key.toList ∧
        key ∉ schemas.keys ∧ e = .unknownModel key := by
  have hpart : '/' ∉ "schemas".toList := by decide
  rw [keyOf]
  cases hname : refName path "schemas" with
  | error fault =>
      have hnot : ∀ key, ¬(path = refPath "schemas" key ∧ key ≠ "" ∧ '/' ∉ key.toList) := by
        intro key h
        cases hname.symm.trans ((refName_eq_ok_iff hpart).mpr h)
      constructor
      · intro h
        exact .inl ⟨fault, rfl, (Except.error.inj h).symm⟩
      · rintro (⟨_, hfault, rfl⟩ | ⟨key, hpath, hne, hslash, _⟩)
        · rw [Except.error.inj hfault]
        · exact (hnot key ⟨hpath, hne, hslash⟩).elim
  | ok key =>
      obtain ⟨hpath, hne, hslash⟩ := (refName_eq_ok_iff hpart).mp hname
      by_cases hkey : key ∈ schemas.keys
      · have hsome := lookup_isSome_iff_mem_keys.mpr hkey
        simp only [hsome, if_true, reduceCtorEq, false_and, exists_false, false_or, false_iff]
        rintro ⟨other, hother, _, _, hundeclared, _⟩
        rw [refPath_inj (hpath.symm.trans hother)] at hkey
        exact hundeclared hkey
      · have hnone : ¬(schemas.lookup key).isSome := fun h =>
          hkey (lookup_isSome_iff_mem_keys.mp h)
        simp only [hnone, if_false, reduceCtorEq, false_and, exists_false, false_or]
        constructor
        · intro h
          exact ⟨key, hpath, hne, hslash, hkey, (Except.error.inj h).symm⟩
        · rintro ⟨other, hother, _, _, _, rfl⟩
          rw [refPath_inj (hpath.symm.trans hother)]

/-- A declared key has a definition. -/
theorem exists_lookup_of_refers {path key : String} (h : schemas.Refers path key) :
    ∃ s, schemas.lookup key = some s :=
  Option.isSome_iff_exists.mp (lookup_isSome_iff_mem_keys.mpr h.declared)

/-- Keys that are entered stay entered. -/
theorem Meets.subset {forest : List (OrRef Schema)} {declarations : List Declaration}
    (h : schemas.Meets entered forest declarations last) : entered ⊆ last := by
  induction h with
  | done entered => exact List.Subset.refl _
  | inline _ _ ihmembers ihrest => exact List.Subset.trans ihmembers ihrest
  | again _ _ _ ih => exact ih
  | follow _ _ _ _ ih => exact List.Subset.trans (List.subset_cons_self _ _) ih

/-- The more is entered, the less is left. -/
theorem length_unentered_le (schemas : Schemas) (h : entered ⊆ middle) :
    (schemas.unentered middle).length ≤ (schemas.unentered entered).length := by
  refine (List.monotone_filter_right schemas fun entry hentry => ?_).length_le
  rw [decide_eq_true_iff] at hentry ⊢
  exact fun hmem => hentry (h hmem)

/-- **Every reading ends.**  Either a key is entered that was not entered before, of which
there are finitely many, or the schemas that are left become smaller. -/
theorem meets_or_stops (schemas : Schemas) (entered : List String) (forest : List (OrRef Schema)) :
    (∃ declarations last, schemas.Meets entered forest declarations last) ∨
      ∃ e, schemas.Stops entered forest e := by
  match forest with
  | [] => exact .inl ⟨[], entered, .done entered⟩
  | .inline s :: rest =>
      rcases meets_or_stops schemas entered s.allOf with ⟨inner, middle, hmembers⟩ | ⟨e, h⟩
      · have hle := length_unentered_le schemas hmembers.subset
        rcases meets_or_stops schemas middle rest with ⟨later, last, hrest⟩ | ⟨e, h⟩
        · exact .inl ⟨_, last, .inline hmembers hrest⟩
        · exact .inr ⟨e, .later hmembers h⟩
      · exact .inr ⟨e, .member h⟩
  | .ref path :: rest =>
      cases hpath : schemas.keyOf path with
      | error e =>
          rcases keyOf_eq_error_iff.mp hpath with
            ⟨fault, hfault, rfl⟩ | ⟨key, rfl, hne, hslash, hkey, rfl⟩
          · exact .inr ⟨_, .malformed hfault⟩
          · exact .inr ⟨_, .undeclared hne hslash hkey⟩
      | ok key =>
          have href := keyOf_eq_ok_iff.mp hpath
          by_cases hentered : key ∈ entered
          · rcases meets_or_stops schemas entered rest with ⟨later, last, hrest⟩ | ⟨e, h⟩
            · exact .inl ⟨later, last, .again href hentered hrest⟩
            · exact .inr ⟨e, .again href hentered h⟩
          · obtain ⟨s, hs⟩ := exists_lookup_of_refers href
            rcases meets_or_stops schemas (key :: entered) (s :: rest) with
              ⟨later, last, hrest⟩ | ⟨e, h⟩
            · exact .inl ⟨later, last, .follow href hentered hs hrest⟩
            · exact .inr ⟨e, .follow href hentered hs h⟩
termination_by ((schemas.unentered entered).length, sizeOf forest)
decreasing_by
  · refine Prod.Lex.right _ ?_
    have hmembers : sizeOf s.allOf < sizeOf s := by
      cases s
      simp only [Schema.mk.sizeOf_spec]
      omega
    rw [List.cons.sizeOf_spec, OrRef.inline.sizeOf_spec]
    omega
  · rcases hle.lt_or_eq with hlt | heq
    · exact Prod.Lex.left _ _ hlt
    · rw [heq]
      exact Prod.Lex.right _ (by rw [List.cons.sizeOf_spec]; omega)
  · exact Prod.Lex.right _ (by rw [List.cons.sizeOf_spec]; omega)
  · exact Prod.Lex.left _ _ (unentered_lt hentered hs)

/-! ### The walk with an agenda -/

/-- A reference to a key that was entered before is passed by. -/
theorem partsFrom_again {path key : String} {agenda : List WalkStep}
    (href : schemas.Refers path key) (hentered : key ∈ entered) :
    schemas.partsFrom entered (.enter (.ref path) :: agenda) =
      schemas.partsFrom entered agenda := by
  rw [partsFrom, keyOf_eq_ok_iff.mpr href]
  simp only [dif_pos hentered]

/-- The first reference to a key that leads nowhere ends the walk. -/
theorem partsFrom_error {path : String} {agenda : List WalkStep}
    (hpath : schemas.keyOf path = .error e) :
    schemas.partsFrom entered (.enter (.ref path) :: agenda) = .error e := by
  rw [partsFrom, hpath]

/-- **Agreement.**  A walk through some schemas yields parts with the declarations that are
met, and goes on with the keys that are entered by then. -/
theorem partsFrom_of_meets {forest : List (OrRef Schema)} {declarations : List Declaration}
    (h : schemas.Meets entered forest declarations last) :
    ∃ parts, parts.flatMap Schema.properties = declarations ∧
      ∀ agenda, schemas.partsFrom entered (forest.map .enter ++ agenda) =
        (schemas.partsFrom last agenda).map (parts ++ ·) := by
  induction h with
  | done entered =>
      refine ⟨[], rfl, fun agenda => ?_⟩
      rw [List.map_nil, List.nil_append]
      cases schemas.partsFrom entered agenda <;> rfl
  | @inline entered middle last s rest inner later _ _ ihmembers ihrest =>
      obtain ⟨parts, rfl, hparts⟩ := ihmembers
      obtain ⟨tail, rfl, htail⟩ := ihrest
      refine ⟨parts ++ s :: tail, by simp, fun agenda => ?_⟩
      have hthrough := hparts (.leave s :: (rest.map .enter ++ agenda))
      rw [List.map_cons, List.cons_append, partsFrom, WalkStep.through, hthrough, partsFrom,
        htail agenda]
      cases schemas.partsFrom last agenda <;> simp [Except.map]
  | again href hentered _ ih =>
      obtain ⟨parts, hdeclarations, hparts⟩ := ih
      refine ⟨parts, hdeclarations, fun agenda => ?_⟩
      rw [List.map_cons, List.cons_append, partsFrom_again href hentered, hparts agenda]
  | follow href hnew hs _ ih =>
      obtain ⟨parts, hdeclarations, hparts⟩ := ih
      refine ⟨parts, hdeclarations, fun agenda => ?_⟩
      rw [List.map_cons, List.cons_append, partsFrom_follow (keyOf_eq_ok_iff.mpr href) hnew hs]
      exact hparts agenda

/-- A walk through some schemas ends where their reading stops. -/
theorem partsFrom_of_stops {forest : List (OrRef Schema)} (h : schemas.Stops entered forest e)
    (agenda : List WalkStep) :
    schemas.partsFrom entered (forest.map .enter ++ agenda) = .error e := by
  induction h generalizing agenda with
  | malformed hpath =>
      exact partsFrom_error (keyOf_eq_error_iff.mpr (.inl ⟨_, hpath, rfl⟩))
  | undeclared hne hslash hkey =>
      exact partsFrom_error (keyOf_eq_error_iff.mpr (.inr ⟨_, rfl, hne, hslash, hkey, rfl⟩))
  | member _ ih =>
      rw [List.map_cons, List.cons_append, partsFrom, WalkStep.through]
      exact ih _
  | later hmembers _ ih =>
      obtain ⟨parts, _, hparts⟩ := partsFrom_of_meets hmembers
      rw [List.map_cons, List.cons_append, partsFrom, WalkStep.through, hparts, partsFrom, ih]
      rfl
  | again href hentered _ ih =>
      rw [List.map_cons, List.cons_append, partsFrom_again href hentered, ih]
  | follow href hnew hs _ ih =>
      rw [List.map_cons, List.cons_append, partsFrom_follow (keyOf_eq_ok_iff.mpr href) hnew hs]
      exact ih agenda

/-- The parts of a schema have the declarations that are met in it. -/
theorem parts_of_meets {s : OrRef Schema} {declarations : List Declaration}
    (h : schemas.Meets [] [s] declarations last) :
    ∃ parts, schemas.parts s = .ok parts ∧ parts.flatMap Schema.properties = declarations := by
  obtain ⟨parts, hdeclarations, hparts⟩ := partsFrom_of_meets h
  have hall := hparts []
  rw [partsFrom, List.append_nil] at hall
  exact ⟨parts, by simpa [Schemas.parts, Except.map] using hall, hdeclarations⟩

/-- A walk that stops has the failure it stops with. -/
theorem parts_of_stops {s : OrRef Schema} (h : schemas.Stops [] [s] e) :
    schemas.parts s = .error e :=
  partsFrom_of_stops h []

/-! ### What is left of the declarations -/

/-- Some properties are what some declarations leave behind: the names in the order in which
they are first declared, each with the schema of its last declaration. -/
structure MergedFrom (declarations : List Declaration) (properties : List FlatProperty) :
    Prop where
  nodup : (names properties).Nodup
  names_eq : names properties = (declarations.map (·.1)).eraseDups
  last : ∀ p ∈ properties, ∃ before after,
    declarations = before ++ (p.name, p.schema) :: after ∧ p.name ∉ after.map (·.1)

variable {declarations : List Declaration} {out : List FlatProperty} {name : String}

theorem mergedFrom_nil : MergedFrom [] [] where
  nodup := List.nodup_nil
  names_eq := rfl
  last := fun _ h => absurd h List.not_mem_nil

/-- What is declared takes the place of what has its name. -/
theorem mem_declare {schema : OrRef Schema} {p : FlatProperty} (hnodup : (names out).Nodup)
    (h : p ∈ declare out name schema) : p = ⟨name, schema, false⟩ ∨ p ∈ out ∧ p.name ≠ name := by
  induction out with
  | nil => exact .inl (List.mem_singleton.mp h)
  | cons q rest ih =>
      obtain ⟨hq, hnodup⟩ := List.nodup_cons.mp hnodup
      rw [declare] at h
      by_cases hname : q.name = name
      · rw [if_pos hname] at h
        rcases List.mem_cons.mp h with rfl | hrest
        · exact .inl rfl
        · have hne : p.name ≠ name := fun heq =>
            hq (List.mem_map.mpr ⟨p, hrest, heq.trans hname.symm⟩)
          exact .inr ⟨List.mem_cons_of_mem _ hrest, hne⟩
      · rw [if_neg hname] at h
        rcases List.mem_cons.mp h with rfl | hrest
        · exact .inr ⟨List.mem_cons_self, hname⟩
        · exact (ih hnodup hrest).imp_right fun h => ⟨List.mem_cons_of_mem _ h.1, h.2⟩

/-- One declaration more. -/
theorem MergedFrom.declare {schema : OrRef Schema} (h : MergedFrom declarations out) :
    MergedFrom (declarations ++ [(name, schema)]) (declare out name schema) where
  nodup := nodup_names_declare h.nodup
  names_eq := by
    have hmem : name ∈ names out ↔ name ∈ declarations.map (·.1) := by
      rw [h.names_eq, List.mem_eraseDups]
    rw [names_declare, List.map_append, List.map_singleton, eraseDups_concat, ← h.names_eq]
    by_cases hname : name ∈ names out
    · rw [if_pos hname, if_pos (hmem.mp hname), List.append_nil]
    · rw [if_neg hname, if_neg fun hdeclared => hname (hmem.mpr hdeclared)]
  last := by
    intro p hp
    rcases mem_declare h.nodup hp with rfl | ⟨hp, hne⟩
    · exact ⟨declarations, [], rfl, List.not_mem_nil⟩
    · obtain ⟨before, after, hsplit, hlast⟩ := h.last p hp
      refine ⟨before, after ++ [(name, schema)], by simp [hsplit], ?_⟩
      simpa [hne] using hlast

/-- A mark changes neither names nor schemas. -/
theorem exists_of_mem_require {p : FlatProperty} (h : p ∈ require out name) :
    ∃ q ∈ out, q.name = p.name ∧ q.schema = p.schema :=
  declares_require ⟨p, h, rfl, rfl⟩

/-- Requiring a name changes no declarations. -/
theorem MergedFrom.require (h : MergedFrom declarations out) :
    MergedFrom declarations (require out name) where
  nodup := names_require.symm ▸ h.nodup
  names_eq := names_require.trans h.names_eq
  last := by
    intro p hp
    obtain ⟨q, hq, hname, hschema⟩ := exists_of_mem_require hp
    rw [← hname, ← hschema]
    exact h.last q hq

/-- The declarations of one part more. -/
theorem MergedFrom.addPart {part : Schema} (h : MergedFrom declarations out) :
    MergedFrom (declarations ++ part.properties) (addPart out part) := by
  have hdeclared : ∀ (properties declarations : List Declaration) (out : List FlatProperty),
      MergedFrom declarations out → MergedFrom (declarations ++ properties)
        (properties.foldl (fun out entry => Schemas.declare out entry.1 entry.2) out) := by
    intro properties
    induction properties with
    | nil =>
        intro declarations out h
        rwa [List.append_nil]
    | cons entry rest ih =>
        intro declarations out h
        rw [List.append_cons]
        exact ih _ _ h.declare
  have hmarked : ∀ (required : List String) (declarations : List Declaration)
      (out : List FlatProperty), MergedFrom declarations out →
      MergedFrom declarations (required.foldl Schemas.require out) := by
    intro required
    induction required with
    | nil => exact fun _ _ h => h
    | cons r rest ih => exact fun declarations out h => ih _ _ h.require
  exact hmarked _ _ _ (hdeclared _ _ _ h)

/-- The declarations of all parts. -/
theorem mergedFrom_parts (parts : List Schema) :
    MergedFrom (parts.flatMap Schema.properties) (parts.foldl Schemas.addPart []) := by
  induction parts using List.reverseRecOn with
  | nil => exact mergedFrom_nil
  | append_singleton parts part ih =>
      rw [List.flatMap_append, List.flatMap_singleton, List.foldl_append]
      exact ih.addPart

/-- **Merging.**  Reading a schema from the inside out always comes to an end, with one
sequence of declarations or at a first reference that leads nowhere.  A schema cannot be
flattened exactly if the reading stops, and the error is that of the reference.  Otherwise
its properties have different names, in the order of their first declarations, and each has
the schema of its last one. -/
theorem flatten_merges (schemas : Schemas) (s : OrRef Schema) :
    ((∃! declarations, ∃ last, schemas.Meets [] [s] declarations last) ∨
      ∃ e, schemas.Stops [] [s] e) ∧
    (∀ e, schemas.flatten s = .error e ↔ schemas.Stops [] [s] e) ∧
    ∀ declarations last, schemas.Meets [] [s] declarations last →
      ∃ properties, schemas.flatten s = .ok properties ∧ MergedFrom declarations properties := by
  refine ⟨?_, fun e => ⟨fun hflat => ?_, fun hstops => ?_⟩, fun declarations last hmeets => ?_⟩
  · refine (meets_or_stops schemas [] [s]).imp_left ?_
    rintro ⟨declarations, last, hmeets⟩
    obtain ⟨parts, hparts, hdeclarations⟩ := parts_of_meets hmeets
    refine ⟨declarations, ⟨last, hmeets⟩, ?_⟩
    rintro others ⟨last', hothers⟩
    obtain ⟨parts', hparts', hsame⟩ := parts_of_meets hothers
    rw [← hsame, ← hdeclarations, Except.ok.inj (hparts.symm.trans hparts')]
  · have hparts := map_eq_error_iff.mp hflat
    rcases meets_or_stops schemas [] [s] with ⟨_, _, hmeets⟩ | ⟨other, hstops⟩
    · obtain ⟨_, hok, _⟩ := parts_of_meets hmeets
      cases hok.symm.trans hparts
    · rwa [← Except.error.inj ((parts_of_stops hstops).symm.trans hparts)]
  · rw [flatten, parts_of_stops hstops]
    rfl
  · obtain ⟨parts, hparts, rfl⟩ := parts_of_meets hmeets
    exact ⟨_, map_eq_ok_iff.mpr ⟨parts, hparts, rfl⟩, mergedFrom_parts parts⟩

/-- Two schemas that are composed of each other and both declare `y`. -/
def composedOfEachOther : Schemas :=
  [("A", .inline
      { allOf := [.ref "#/components/schemas/B"]
        properties := [("x", .inline {}), ("y", .inline { title := some "A" })] }),
    ("B", .inline
      { allOf := [.ref "#/components/schemas/A"]
        properties := [("y", .inline { title := some "B" }), ("z", .inline {})] })]

/-- The second is read within the first and does not enter that again.  Its declarations come
first, so `y` keeps the place it has there. -/
theorem flatten_of_composedOfEachOther :
    ∃ properties,
      composedOfEachOther.flatten (.ref "#/components/schemas/A") = .ok properties ∧
      names properties = ["y", "z", "x"] := by
  have hA : composedOfEachOther.Refers "#/components/schemas/A" "A" :=
    ⟨by decide, by decide, by decide, by decide⟩
  have hB : composedOfEachOther.Refers "#/components/schemas/B" "B" :=
    ⟨by decide, by decide, by decide, by decide⟩
  have hinner : composedOfEachOther.Meets ["A"] [.ref "#/components/schemas/B"] _ ["B", "A"] :=
    .follow hB (by decide) rfl
      (.inline (.again hA (by decide) (.done _)) (.done _))
  have hmeets : composedOfEachOther.Meets [] [.ref "#/components/schemas/A"] _ ["B", "A"] :=
    .follow hA (by decide) rfl (.inline hinner (.done _))
  obtain ⟨properties, hok, hmerged⟩ :=
    (flatten_merges composedOfEachOther (.ref "#/components/schemas/A")).2.2 _ _ hmeets
  refine ⟨properties, hok, hmerged.names_eq.trans ?_⟩
  decide

end ClientGen.Schemas
