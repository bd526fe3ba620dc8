import ClientGen.Model.Build
import ClientGen.Model.Discovery
import ClientGen.Proofs.Model.Walk
import ClientGen.Proofs.Respelling.Schema

/-!
# Models of respelled schemas

A walk through a composition, the search for the keys a definition depends on, and the
models that are built go through respelled schemas in step: they meet the same keys, fail
with the same failures, and differ at most in the schemas that they hand on.

* `Schemas.Respelled.flatten`: the properties of an object with all its parts;
* `Schemas.Respelled.reach_eq`: the keys that can be reached;
* `Schemas.Respelled.model_eq`: the models.
-/

namespace ClientGen

open List (Forall₂)

/-- The same property with its schema respelled. -/
inductive FlatProperty.Respelled : FlatProperty → FlatProperty → Prop
  | mk (name : String) (required : Bool) {s s' : OrRef Schema} (h : s.Respelled s') :
      Respelled ⟨name, s, required⟩ ⟨name, s', required⟩

/-- The same step of a walk through respelled schemas. -/
inductive WalkStep.Respelled : WalkStep → WalkStep → Prop
  | enter {s s' : OrRef Schema} (h : s.Respelled s') : Respelled (.enter s) (.enter s')
  | leave {s s' : Schema} (h : s.Respelled s') : Respelled (.leave s) (.leave s')

/-! ### The walk -/

section

variable {rest agenda' : List WalkStep}

/-- A walk that is about to enter a schema is matched by one about to enter a respelled one. -/
theorem exists_of_enter {s : OrRef Schema}
    (h : Forall₂ WalkStep.Respelled (.enter s :: rest) agenda') :
    ∃ s' rest', agenda' = .enter s' :: rest' ∧ s.Respelled s' ∧
      Forall₂ WalkStep.Respelled rest rest' := by
  obtain ⟨_, rest', hstep, hrest, rfl⟩ := List.forall₂_cons_left_iff.mp h
  cases hstep with
  | enter hs => exact ⟨_, rest', rfl, hs, hrest⟩

/-- A walk that is about to leave a schema is matched by one about to leave a respelled one. -/
theorem exists_of_leave {s : Schema} (h : Forall₂ WalkStep.Respelled (.leave s :: rest) agenda') :
    ∃ s' rest', agenda' = .leave s' :: rest' ∧ s.Respelled s' ∧
      Forall₂ WalkStep.Respelled rest rest' := by
  obtain ⟨_, rest', hstep, hrest, rfl⟩ := List.forall₂_cons_left_iff.mp h
  cases hstep with
  | leave hs => exact ⟨_, rest', rfl, hs, hrest⟩

/-- The steps through a schema and its members are respelled. -/
theorem Schema.Respelled.through {s s' : Schema} {rest' : List WalkStep} (h : s.Respelled s')
    (hrest : Forall₂ WalkStep.Respelled rest rest') :
    Forall₂ WalkStep.Respelled (WalkStep.through s rest) (WalkStep.through s' rest') := by
  have hmembers : Forall₂ WalkStep.Respelled (s.allOf.map .enter) (s'.allOf.map .enter) :=
    List.rel_map (fun _ _ => .enter) h.allOf
  exact List.rel_append hmembers (.cons (.leave h) hrest)

end

namespace Schemas.Respelled

variable {schemas schemas' : Schemas}

/-- A walk meets the same parts, respelled. -/
theorem partsFrom (h : schemas.Respelled schemas') (entered : List String)
    {agenda agenda' : List WalkStep} (hagenda : Forall₂ WalkStep.Respelled agenda agenda') :
    OutcomeRel (Forall₂ Schema.Respelled) (schemas.partsFrom entered agenda)
      (schemas'.partsFrom entered agenda') := by
  fun_induction Schemas.partsFrom schemas entered agenda generalizing agenda' with
  | case1 entered =>
      cases hagenda
      rw [Schemas.partsFrom]
      exact .ok .nil
  | case2 entered s rest ih =>
      obtain ⟨s', rest', rfl, hs, hrest⟩ := exists_of_leave hagenda
      rw [Schemas.partsFrom]
      exact (ih hrest).map fun _ _ => .cons hs
  | case3 entered s rest ih =>
      obtain ⟨_, rest', rfl, ⟨⟩ | ⟨hs⟩, hrest⟩ := exists_of_enter hagenda
      rw [Schemas.partsFrom]
      exact ih (hs.through hrest)
  | case4 entered path rest e hkey =>
      obtain ⟨_, rest', rfl, ⟨⟩, hrest⟩ := exists_of_enter hagenda
      rw [Schemas.partsFrom, ← h.keyOf_eq, hkey]
      exact .error e
  | case5 entered path rest key hkey hentered ih =>
      obtain ⟨_, rest', rfl, ⟨⟩, hrest⟩ := exists_of_enter hagenda
      rw [Schemas.partsFrom, ← h.keyOf_eq, hkey]
      simp only [dif_pos hentered]
      exact ih hrest
  | case6 entered path rest key hkey hentered hnone =>
      obtain ⟨_, rest', rfl, ⟨⟩, hrest⟩ := exists_of_enter hagenda
      rw [partsFrom_missing (h.keyOf_eq path ▸ hkey) hentered (h.lookup_eq_none hnone)]
      exact .error _
  | case7 entered path rest key hkey hentered s hs ih =>
      obtain ⟨_, rest', rfl, ⟨⟩, hrest⟩ := exists_of_enter hagenda
      obtain ⟨s', hs', hrespelled⟩ := h.exists_lookup hs
      rw [partsFrom_follow (h.keyOf_eq path ▸ hkey) hentered hs']
      exact ih (.cons (.enter hrespelled) hrest)

/-! ### Properties -/

variable {out out' : List FlatProperty}

/-- A declared property replaces the same earlier one, or comes last on both sides. -/
theorem declare (hout : Forall₂ FlatProperty.Respelled out out') (name : String)
    {s s' : OrRef Schema} (hs : s.Respelled s') :
    Forall₂ FlatProperty.Respelled (Schemas.declare out name s) (Schemas.declare out' name s') := by
  induction hout with
  | nil => exact .cons (.mk name false hs) .nil
  | @cons p p' rest rest' hp hrest ih =>
      obtain ⟨other, required, hschema⟩ := hp
      rw [Schemas.declare, Schemas.declare]
      split
      · exact .cons (.mk name false hs) hrest
      · exact .cons (.mk other required hschema) ih

/-- The same property becomes required. -/
theorem require (hout : Forall₂ FlatProperty.Respelled out out') (name : String) :
    Forall₂ FlatProperty.Respelled (Schemas.require out name) (Schemas.require out' name) := by
  induction hout with
  | nil => exact .nil
  | @cons p p' rest rest' hp hrest ih =>
      obtain ⟨other, required, hschema⟩ := hp
      rw [Schemas.require, Schemas.require]
      split
      · exact .cons (.mk other true hschema) hrest
      · exact .cons (.mk other required hschema) ih

/-- A part adds its properties and its required names on both sides. -/
theorem addPart (hout : Forall₂ FlatProperty.Respelled out out') {s s' : Schema}
    (hs : s.Respelled s') :
    Forall₂ FlatProperty.Respelled (Schemas.addPart out s) (Schemas.addPart out' s') := by
  have hlisted : Forall₂ Eq s.required s'.required := by
    rw [hs.required, List.forall₂_eq_eq_eq]
  refine List.rel_foldl ?_ (List.rel_foldl ?_ hout hs.properties) hlisted
  · rintro out out' hout name _ rfl
    exact require hout name
  · rintro out out' hout _ _ ⟨name, hschema⟩
    exact declare hout name hschema

/-- **Properties.**  A schema is flattened into the same properties, respelled. -/
theorem flatten (h : schemas.Respelled schemas') {s s' : OrRef Schema} (hs : s.Respelled s') :
    OutcomeRel (Forall₂ FlatProperty.Respelled) (schemas.flatten s) (schemas'.flatten s') := by
  have hparts := h.partsFrom [] (.cons (.enter hs) .nil)
  refine hparts.map fun parts parts' hparts => ?_
  refine List.rel_foldl ?_ .nil hparts
  exact fun _ _ hout _ _ hpart => addPart hout hpart

/-! ### Keys -/

/-- The key a schema leads to, in one step by its shape. -/
theorem seed?_eq_match (s : OrRef Schema) : schemas.seed? s =
    match s.shape with
    | .ref path => (schemas.keyOf path).toOption
    | .composed base => schemas.seed? base
    | .array (some items) => schemas.seed? items
    | .map (some values) => schemas.seed? values
    | _ => none := by
  rw [Schemas.seed?]
  split <;> simp only [*]

/-- A schema that is a reference, or an array or a map of one, leads to the same key. -/
theorem seed?_eq (h : schemas.Respelled schemas') {s s' : OrRef Schema} (hs : s.Respelled s') :
    schemas.seed? s = schemas'.seed? s' := by
  refine OrRef.Rel.shape_induct (fun s s' hs hinner => ?_) hs
  have hshape := hs.shape
  rw [seed?_eq_match, seed?_eq_match]
  generalize s.shape = shape, s'.shape = shape' at hshape hinner
  cases hshape with
  | ref path => simp only [h.keyOf_eq]
  | composed hbase => exact hinner _ (List.mem_singleton_self _) _ hbase
  | array hitems =>
      cases hitems with
      | none => rfl
      | some hitems => exact hinner _ (List.mem_singleton_self _) _ hitems
  | map hvalues =>
      cases hvalues with
      | none => rfl
      | some hvalues => exact hinner _ (List.mem_singleton_self _) _ hvalues
  | union => rfl
  | enumeration => rfl
  | object => rfl
  | scalar type format => rfl
  | any => rfl

/-- A list of schemas leads to the same keys. -/
theorem seeds_eq (h : schemas.Respelled schemas') {list list' : List (OrRef Schema)}
    (hlist : Forall₂ OrRef.Respelled list list') : schemas.seeds list = schemas'.seeds list' :=
  filterMap_eq_of_rel (fun _ _ => h.seed?_eq) hlist

/-- The keys of a definition, given those of the members of its composition. -/
theorem definitionSeeds_eq_of_members (h : schemas.Respelled schemas') {s s' : Schema}
    (hs : s.Respelled s') (hmembers : schemas.memberSeeds s.allOf = schemas'.memberSeeds s'.allOf) :
    schemas.definitionSeeds (.inline s) = schemas'.definitionSeeds (.inline s') := by
  have hvalues : Option.Rel OrRef.Respelled s.values? s'.values? := by
    have hadditional := hs.additional
    unfold Schema.values?
    generalize s.additional = values, s'.additional = values' at hadditional
    cases hadditional with
    | none => exact .none
    | some hvalues =>
        cases hvalues with
        | flag allowed => exact .none
        | schema hvalues => exact .some hvalues
  have hproperties : Forall₂ OrRef.Respelled (s.properties.map (·.2)) (s'.properties.map (·.2)) :=
    List.rel_map (fun _ _ ⟨_, hschema⟩ => hschema) hs.properties
  rw [definitionSeeds, definitionSeeds, hmembers, h.seeds_eq hproperties,
    h.seeds_eq (rel_toList hs.items), h.seeds_eq (rel_toList hvalues)]

theorem memberSeeds_eq (h : schemas.Respelled schemas') {members members' : List (OrRef Schema)}
    (hmembers : Forall₂ OrRef.Respelled members members') :
    schemas.memberSeeds members = schemas'.memberSeeds members' := by
  induction hsize : sizeOf members using Nat.strongRecOn generalizing members members' with
  | ind n ih =>
      cases hmembers with
      | nil => rw [memberSeeds, memberSeeds]
      | @cons m m' rest rest' hm hrest =>
          have hlater := ih (sizeOf rest) (by
            rw [← hsize, List.cons.sizeOf_spec]
            omega) hrest rfl
          have hseeds := h.seeds_eq (.cons hm .nil)
          cases hm with
          | ref path => rw [memberSeeds, memberSeeds, hlater, hseeds]
          | @inline s s' hs =>
              have hinner := ih (sizeOf s.allOf) (by
                have := s.sizeOf_allOf
                rw [← hsize, List.cons.sizeOf_spec, OrRef.inline.sizeOf_spec]
                omega) hs.allOf rfl
              rw [memberSeeds, memberSeeds, hlater, hseeds,
                h.definitionSeeds_eq_of_members hs hinner]

/-- The keys that a definition directly leads to are the same. -/
theorem definitionSeeds_eq (h : schemas.Respelled schemas') {s s' : OrRef Schema}
    (hs : s.Respelled s') : schemas.definitionSeeds s = schemas'.definitionSeeds s' := by
  cases hs with
  | ref path => rw [definitionSeeds, definitionSeeds, h.seeds_eq (.cons (.ref path) .nil)]
  | inline hs => exact h.definitionSeeds_eq_of_members hs (h.memberSeeds_eq hs.allOf)

/-- **Keys.**  The same keys can be reached. -/
theorem reach_eq (h : schemas.Respelled schemas') (found todo : List String) :
    schemas.reach found todo = schemas'.reach found todo := by
  fun_induction Schemas.reach schemas found todo with
  | case1 found => rw [Schemas.reach]
  | case2 found key rest hfound ih => rw [Schemas.reach, dif_pos hfound, ih]
  | case3 found key rest hfound hnone ih =>
      have hnone' := h.lookup_eq_none hnone
      rw [Schemas.reach, dif_neg hfound]
      split
      · exact ih
      next hother => rw [hnone'] at hother; cases hother
  | case4 found key rest hfound s hs ih =>
      obtain ⟨s', hs', hrespelled⟩ := h.exists_lookup hs
      rw [Schemas.reach, dif_neg hfound]
      split
      next hother => rw [hs'] at hother; cases hother
      next hother =>
        rw [hs'] at hother
        cases hother
        rw [← h.definitionSeeds_eq hrespelled]
        exact ih

/-! ### Models -/

/-- A respelled property is modeled in the same way. -/
theorem modelProperty_eq (h : schemas.Respelled schemas') (key : String) {p p' : FlatProperty}
    (hp : p.Respelled p') : schemas.modelProperty key p = schemas'.modelProperty key p' := by
  obtain ⟨name, required, hs⟩ := hp
  unfold Schemas.modelProperty
  rw [h.typeOf_eq hs, hs.description?_eq, hs.deprecated?_eq]

/-- An object has the same model, or the same failure. -/
theorem objectModel_eq (h : schemas.Respelled schemas') (key : String) {s s' : Schema}
    (hs : s.Respelled s') : schemas.objectModel key s = schemas'.objectModel key s' := by
  have hflat := h.flatten (.inline hs)
  unfold Schemas.objectModel
  generalize schemas.flatten (.inline s) = flat, schemas'.flatten (.inline s') = flat' at hflat
  cases hflat with
  | error e => rfl
  | ok hflat =>
      have hproperties := mapM_eq_of_rel (fun _ _ hp => h.modelProperty_eq key hp) hflat
      simp only [hproperties, hs.description, hs.deprecated]

theorem aliasModel_eq (h : schemas.Respelled schemas') (key : String) {s s' : OrRef Schema}
    (hs : s.Respelled s') : schemas.aliasModel key s = schemas'.aliasModel key s' := by
  rw [Schemas.aliasModel, Schemas.aliasModel, h.typeOf_eq hs, hs.description?_eq]

theorem enumModel_eq (key : String) {s s' : Schema} (hs : s.Respelled s') :
    enumModel key s = enumModel key s' := by
  rw [enumModel, enumModel, hs.literalPrimitive_eq, hs.literals, hs.description]

/-- A respelled definition has the same model, or the same failure. -/
theorem buildModel_eq (h : schemas.Respelled schemas') (key : String) {s s' : OrRef Schema}
    (hs : s.Respelled s') : schemas.buildModel key s = schemas'.buildModel key s' := by
  have halias := h.aliasModel_eq key hs
  cases hs with
  | ref path => rw [buildModel, buildModel, halias]
  | @inline s s' hs =>
      have hshape := hs.shape
      rw [buildModel, buildModel, halias, h.objectModel_eq key hs, enumModel_eq key hs]
      generalize s.shape = shape, s'.shape = shape' at hshape
      cases hshape <;> rfl

/-- **Models.**  A key keeps its model. -/
theorem model_eq (h : schemas.Respelled schemas') (key : String) :
    schemas.model key = schemas'.model key := by
  have hlookup := h.lookup key
  unfold Schemas.model
  generalize schemas.lookup key = s, schemas'.lookup key = s' at hlookup
  cases hlookup with
  | none => rfl
  | some hs => exact h.buildModel_eq key hs

end Schemas.Respelled

end ClientGen
