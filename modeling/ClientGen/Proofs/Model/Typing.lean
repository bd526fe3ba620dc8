import ClientGen.Proofs.Model.SchemaGraph
import ClientGen.Proofs.Outcome

/-!
# The keys in the type of a schema

`typeOf` follows a schema the same way the graph of keys does: through bases of
compositions, items of lists and values of maps, up to a reference.  So a type
mentions no key but the one its schema leads to.

* `typeOf_eq`: `typeOf` in one step, by the shape of the schema;
* `leadsTo_of_mem_keys`: the keys in a type;
* `exists_typeOf_of_leadsTo`: a schema that leads to a key has a type, with that key in it.
-/

namespace ClientGen.Schemas

variable {schemas : Schemas}

/-- The type that a shape stands for, null aside. -/
def shapeType (schemas : Schemas) (s : OrRef Schema) : Except ReferenceError TypeDesc :=
  match s.shape with
  | .ref path => schemas.typeOfRef path
  | .composed base => schemas.typeOf base
  | .enumeration => .ok (literalType s)
  | .array (some items) => (schemas.typeOf items).map .array
  | .array none => .ok (.array .any)
  | .map (some values) => (schemas.typeOf values).map .map
  | .map none => .ok (.map .any)
  | .object => .ok (.map .any)
  | .scalar type format => .ok (.primitive (type.primitive format))
  | .union => .ok .any
  | .any => .ok .any

/-- The type of a schema is that of its shape, nullable if the schema is. -/
theorem typeOf_eq (s : OrRef Schema) :
    schemas.typeOf s = (schemas.shapeType s).map (·.orNullIf s.isNullable) := by
  rw [typeOf]
  split <;> simp only [shapeType, *] <;> rfl

/-- Nullability adds no keys to the type of a shape. -/
theorem exists_shapeType {s : OrRef Schema} {t : TypeDesc} (h : schemas.typeOf s = .ok t) :
    ∃ u, schemas.shapeType s = .ok u ∧ t.keys = u.keys := by
  rw [typeOf_eq] at h
  obtain ⟨u, hu, rfl⟩ := map_eq_ok_iff.mp h
  exact ⟨u, hu, TypeDesc.keys_orNullIf u _⟩

/-- The type of a reference mentions the key it refers to and no other. -/
theorem refers_of_mem_keys {path key : String} {t : TypeDesc}
    (h : schemas.typeOfRef path = .ok t) (hkey : key ∈ t.keys) : schemas.Refers path key := by
  obtain ⟨target, htarget, rfl⟩ := map_eq_ok_iff.mp h
  have hsame : key = target := by
    split at hkey <;> simpa [TypeDesc.keys] using hkey
  rw [hsame]
  exact keyOf_eq_ok_iff.mp htarget

/-- **Keys of types.**  A type mentions only the key its schema leads to. -/
theorem leadsTo_of_mem_keys {s : OrRef Schema} {t : TypeDesc} {key : String}
    (h : schemas.typeOf s = .ok t) (hkey : key ∈ t.keys) : schemas.LeadsTo s key := by
  induction s using typeOf.induct generalizing t with
  | case1 s path hshape =>
      obtain ⟨u, hu, hkeys⟩ := exists_shapeType h
      rw [shapeType, hshape] at hu
      rw [shape_eq_ref_iff.mp hshape]
      exact .ref (refers_of_mem_keys hu (hkeys ▸ hkey))
  | case2 s base hshape _ ih =>
      obtain ⟨u, hu, hkeys⟩ := exists_shapeType h
      rw [shapeType, hshape] at hu
      exact .base hshape (ih hu (hkeys ▸ hkey))
  | case6 s items hshape _ ih =>
      obtain ⟨u, hu, hkeys⟩ := exists_shapeType h
      rw [shapeType, hshape] at hu
      obtain ⟨v, hv, rfl⟩ := map_eq_ok_iff.mp hu
      exact .items hshape (ih hv (hkeys ▸ hkey))
  | case8 s values hshape _ ih =>
      obtain ⟨u, hu, hkeys⟩ := exists_shapeType h
      rw [shapeType, hshape] at hu
      obtain ⟨v, hv, rfl⟩ := map_eq_ok_iff.mp hu
      exact .values hshape (ih hv (hkeys ▸ hkey))
  | _ s =>
      -- The remaining shapes lead nowhere, and their types mention no key.
      obtain ⟨u, hu, hkeys⟩ := exists_shapeType h
      rw [shapeType, ‹s.shape = _›] at hu
      cases hu
      rw [hkeys] at hkey
      cases hkey

/-- The same where the schema may be missing: then the type mentions no key. -/
theorem leadsTo_of_mem_keys? {s? : Option (OrRef Schema)} {t : TypeDesc} {key : String}
    (h : schemas.typeOf? s? = .ok t) (hkey : key ∈ t.keys) :
    ∃ s, s? = some s ∧ schemas.LeadsTo s key := by
  cases s? with
  | none => cases h; cases hkey
  | some s => exact ⟨s, rfl, leadsTo_of_mem_keys h hkey⟩

/-! ### Schemas that lead to a key -/

/-- Where the type of its shape mentions a key, so does the type of a schema. -/
theorem exists_typeOf_of_shapeType {s : OrRef Schema} {u : TypeDesc} {key : String}
    (h : schemas.shapeType s = .ok u) (hkey : key ∈ u.keys) :
    ∃ t, schemas.typeOf s = .ok t ∧ key ∈ t.keys := by
  refine ⟨u.orNullIf s.isNullable, ?_, by rwa [TypeDesc.keys_orNullIf]⟩
  rw [typeOf_eq, h]
  rfl

/-- **Types that mention a key.**  A schema that leads to a key has a type, and the type
mentions it. -/
theorem exists_typeOf_of_leadsTo {s : OrRef Schema} {key : String} (h : schemas.LeadsTo s key) :
    ∃ t, schemas.typeOf s = .ok t ∧ key ∈ t.keys := by
  induction h with
  | @ref path key href =>
      have htype : schemas.shapeType (.ref path) = .ok
          (if schemas.isEnumeration key then .enum key else .model key) :=
        map_eq_ok_iff.mpr ⟨key, keyOf_eq_ok_iff.mpr href, rfl⟩
      refine exists_typeOf_of_shapeType htype ?_
      split <;> exact List.mem_singleton_self key
  | @base s base key hshape _ ih =>
      obtain ⟨u, hu, hkey⟩ := ih
      have htype : schemas.shapeType s = .ok u := by rw [shapeType, hshape, ← hu]
      exact exists_typeOf_of_shapeType htype hkey
  | @items s items key hshape _ ih =>
      obtain ⟨u, hu, hkey⟩ := ih
      have htype : schemas.shapeType s = .ok (.array u) := by
        rw [shapeType, hshape]
        exact map_eq_ok_iff.mpr ⟨u, hu, rfl⟩
      exact exists_typeOf_of_shapeType htype hkey
  | @values s values key hshape _ ih =>
      obtain ⟨u, hu, hkey⟩ := ih
      have htype : schemas.shapeType s = .ok (.map u) := by
        rw [shapeType, hshape]
        exact map_eq_ok_iff.mpr ⟨u, hu, rfl⟩
      exact exists_typeOf_of_shapeType htype hkey

end ClientGen.Schemas
