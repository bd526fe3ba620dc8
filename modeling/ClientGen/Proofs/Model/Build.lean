import ClientGen.Model.Build
import ClientGen.Proofs.Model.SchemaGraph
import ClientGen.Proofs.Outcome

/-!
# What a model is built from

Each function that builds models, taken apart once: what it has found when it
succeeds, and what is to blame when it fails.  A model bears its key, and so does
every failure of a declared key.

* `modelProperty_eq_ok_iff`, `objectModel_eq_ok_iff`, `aliasModel_eq_ok_iff`: the
  parts of a model;
* `builds_of_model`, `exists_flat_of_model`: the kinds of models, by the definition of their
  key, and the properties of a class;
* `name_of_model`, `concerns_of_model`: keys of models and of failures.
-/

namespace ClientGen

/-- The failure of the model of a key, or of one of its properties. -/
def Failure.Concerns (f : Failure) (key : String) : Prop :=
  (∃ cause, f = .model key cause) ∨ ∃ name cause, f = .property key name cause

namespace Schemas

variable {schemas : Schemas} {key : String}

/-- The property of a class has the type of its schema, nullable unless it is required. -/
theorem modelProperty_eq_ok_iff {p : FlatProperty} {property : ModelProperty} :
    schemas.modelProperty key p = .ok property ↔ ∃ t, schemas.typeOf p.schema = .ok t ∧
      property =
        { name := .ofText p.name
          wireName := p.name
          type := t.orNullIf !p.required
          required := p.required
          description := p.schema.description?
          deprecated := (p.schema.item?.bind Schema.deprecated).getD false } := by
  unfold modelProperty
  cases schemas.typeOf p.schema <;> simp [eq_comm]

/-- A class has the properties that are flattened out of its schema. -/
theorem objectModel_eq_ok_iff {s : Schema} {m : ObjectModel} :
    schemas.objectModel key s = .ok m ↔ ∃ flat properties, schemas.flatten (.inline s) = .ok flat ∧
      flat.mapM (schemas.modelProperty key) = .ok properties ∧
      m = ⟨.ofText key, s.description, properties, s.deprecated.getD false⟩ := by
  unfold objectModel
  cases hflat : schemas.flatten (.inline s) with
  | error cause => simp
  | ok flat =>
      constructor
      · intro h
        obtain ⟨properties, hproperties, h⟩ := bind_eq_ok_iff.mp h
        cases h
        exact ⟨flat, properties, rfl, hproperties, rfl⟩
      · rintro ⟨_, properties, hsame, hproperties, rfl⟩
        cases hsame
        exact bind_eq_ok_iff.mpr ⟨properties, hproperties, rfl⟩

/-- Another name stands for the type of its schema. -/
theorem aliasModel_eq_ok_iff {s : OrRef Schema} {m : AliasModel} :
    schemas.aliasModel key s = .ok m ↔
      ∃ t, schemas.typeOf s = .ok t ∧ m = ⟨.ofText key, s.description?, t⟩ := by
  unfold aliasModel
  cases schemas.typeOf s <;> simp [eq_comm]

/-- The kinds of models, by the shape of a definition. -/
inductive Builds (schemas : Schemas) (key : String) : OrRef Schema → Model → Prop
  | object {s : Schema} {m : ObjectModel}
      (hshape : s.shape = .object ∨ ∃ base, s.shape = .composed base)
      (hm : schemas.objectModel key s = .ok m) : Builds schemas key (.inline s) (.object m)
  | enumeration {s : Schema} (hshape : s.shape = .enumeration) :
      Builds schemas key (.inline s) (.enumeration (enumModel key s))
  | typeAlias {s : OrRef Schema} {m : AliasModel} (hobject : s.shape ≠ .object)
      (hcomposed : ∀ base, s.shape ≠ .composed base) (henumeration : s.shape ≠ .enumeration)
      (hm : schemas.aliasModel key s = .ok m) : Builds schemas key s (.typeAlias m)

/-- The model of a definition is of the kind for its shape. -/
theorem builds_of_buildModel {s : OrRef Schema} {m : Model}
    (h : schemas.buildModel key s = .ok m) : schemas.Builds key s m := by
  unfold buildModel at h
  split at h
  next path =>
    obtain ⟨built, hbuilt, rfl⟩ := map_eq_ok_iff.mp h
    exact .typeAlias (by simp [OrRef.shape]) (by simp [OrRef.shape]) (by simp [OrRef.shape])
      hbuilt
  next s =>
    split at h
    next hshape =>
      cases h
      exact .enumeration hshape
    next hshape =>
      obtain ⟨built, hbuilt, rfl⟩ := map_eq_ok_iff.mp h
      exact .object (.inl hshape) hbuilt
    next base hshape =>
      obtain ⟨built, hbuilt, rfl⟩ := map_eq_ok_iff.mp h
      exact .object (.inr ⟨base, hshape⟩) hbuilt
    next henumeration hobject hcomposed =>
      obtain ⟨built, hbuilt, rfl⟩ := map_eq_ok_iff.mp h
      exact .typeAlias hobject hcomposed henumeration hbuilt

/-- The model of a key is built from its definition. -/
theorem builds_of_model {m : Model} (h : schemas.model key = .ok m) :
    ∃ s, schemas.lookup key = some s ∧ schemas.Builds key s m := by
  rw [model] at h
  split at h
  · cases h
  next s hs => exact ⟨s, hs, builds_of_buildModel h⟩

/-- A model bears the key it is made for. -/
theorem name_of_model {m : Model} (h : schemas.model key = .ok m) : m.name = .ofText key := by
  obtain ⟨s, _, hbuilds⟩ := builds_of_model h
  cases hbuilds with
  | object _ hm =>
      obtain ⟨_, _, _, _, rfl⟩ := objectModel_eq_ok_iff.mp hm
      rfl
  | enumeration => rfl
  | typeAlias _ _ _ hm =>
      obtain ⟨_, _, rfl⟩ := aliasModel_eq_ok_iff.mp hm
      rfl

/-- The properties of a class are those of the definition of its key, one by one. -/
theorem exists_flat_of_model {m : ObjectModel} (h : schemas.model key = .ok (.object m)) :
    ∃ s flat, schemas.lookup key = some (.inline s) ∧ schemas.flatten (.inline s) = .ok flat ∧
      flat.mapM (schemas.modelProperty key) = .ok m.properties := by
  obtain ⟨definition, hs, hbuilds⟩ := builds_of_model h
  cases hbuilds with
  | @object s _ _ hm =>
      obtain ⟨flat, properties, hflat, hproperties, rfl⟩ := objectModel_eq_ok_iff.mp hm
      exact ⟨s, flat, hs, hflat, hproperties⟩

/-! ### Failures -/

/-- A class fails with its key. -/
theorem concerns_of_objectModel {s : Schema} {f : Failure}
    (h : schemas.objectModel key s = .error f) : f.Concerns key := by
  rw [objectModel] at h
  split at h
  next cause _ =>
    cases h
    exact .inl ⟨cause, rfl⟩
  · rcases bind_eq_error_iff.mp h with hproperties | ⟨_, _, h⟩
    · obtain ⟨p, _, hproperty⟩ := mapM_eq_error hproperties
      rw [modelProperty] at hproperty
      split at hproperty
      next cause _ =>
        cases hproperty
        exact .inr ⟨p.name, cause, rfl⟩
      · cases hproperty
    · cases h

/-- Another name fails with its key. -/
theorem concerns_of_aliasModel {s : OrRef Schema} {f : Failure}
    (h : schemas.aliasModel key s = .error f) : f.Concerns key := by
  rw [aliasModel] at h
  split at h
  next cause _ =>
    cases h
    exact .inl ⟨cause, rfl⟩
  · cases h

/-- The failure of a declared key says which key it is. -/
theorem concerns_of_model {f : Failure} (hkey : key ∈ schemas.keys)
    (h : schemas.model key = .error f) : f.Concerns key := by
  rw [model] at h
  split at h
  next hnone =>
    have hsome := lookup_isSome_iff_mem_keys.mpr hkey
    rw [hnone] at hsome
    cases hsome
  · unfold buildModel at h
    split at h
    · exact concerns_of_aliasModel (map_eq_error_iff.mp h)
    · split at h
      · cases h
      · exact concerns_of_objectModel (map_eq_error_iff.mp h)
      · exact concerns_of_objectModel (map_eq_error_iff.mp h)
      · exact concerns_of_aliasModel (map_eq_error_iff.mp h)

end Schemas

end ClientGen
