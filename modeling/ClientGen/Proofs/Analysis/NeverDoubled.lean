import ClientGen.Proofs.Analysis.Mentions
import ClientGen.Proofs.Analysis.Parameters
import ClientGen.Proofs.Analysis.Run
import ClientGen.Proofs.Model.Build
import ClientGen.Proofs.Model.Typing

/-!
# Null is never doubled

Null comes to a type from many sides.  A schema may allow it by its flag or among its types,
the base of a composition may allow it as well, and what may be left out is made nullable on
top of that.  All of them add it to a type that has none doubled, and adding it keeps that.

* `neverDoubled_shapeType`, `neverDoubled_typeOf`: one step of typing a schema, and the whole;
* `isNullable_of_typeOf`: the null that a schema allows is not lost on the way;
* `Analysis.types`: every type in an analysis;
* `Analyzer.neverDoubled_of_mem_types`: all of them.
-/

namespace ClientGen

/-! ### Schemas -/

namespace Schemas

variable {schemas : Schemas} {t : TypeDesc}

/-- A reference has a type without null. -/
theorem neverDoubled_typeOfRef {path : String} (h : schemas.typeOfRef path = .ok t) :
    t.NeverDoubled := by
  obtain ⟨key, _, rfl⟩ := map_eq_ok_iff.mp h
  split <;> trivial

/-- **One step.**  A shape keeps what the types of the schemas inside it have. -/
theorem neverDoubled_shapeType {s : OrRef Schema}
    (hinner : ∀ i ∈ s.shape.inner, ∀ u, schemas.typeOf i = .ok u → u.NeverDoubled)
    (h : schemas.shapeType s = .ok t) : t.NeverDoubled := by
  rw [shapeType] at h
  generalize s.shape = shape at h hinner
  cases shape with
  | ref path => exact neverDoubled_typeOfRef h
  | composed base => exact hinner base (List.mem_singleton_self base) t h
  | array items =>
      cases items with
      | none =>
          cases h
          trivial
      | some items =>
          obtain ⟨u, hu, rfl⟩ := map_eq_ok_iff.mp h
          exact hinner items (List.mem_singleton_self items) u hu
  | map values =>
      cases values with
      | none =>
          cases h
          trivial
      | some values =>
          obtain ⟨u, hu, rfl⟩ := map_eq_ok_iff.mp h
          exact hinner values (List.mem_singleton_self values) u hu
  | union | enumeration | object | scalar | any =>
      -- These shapes stand for primitives, or for maps of them.
      cases h
      trivial

/-- **Schemas.**  No schema has a type that is nullable twice. -/
theorem neverDoubled_typeOf {s : OrRef Schema} {t : TypeDesc} (h : schemas.typeOf s = .ok t) :
    t.NeverDoubled := by
  rw [typeOf_eq] at h
  obtain ⟨u, hu, rfl⟩ := map_eq_ok_iff.mp h
  have hshape : u.NeverDoubled :=
    neverDoubled_shapeType (fun i hi v hv => neverDoubled_typeOf hv) hu
  exact hshape.orNullIf s.isNullable
termination_by sizeOf s
decreasing_by exact OrRef.shape_lt ‹_›

/-- A schema that allows null has a type that does. -/
theorem isNullable_of_typeOf {s : OrRef Schema} (h : schemas.typeOf s = .ok t)
    (hs : s.isNullable = true) : t.isNullable = true := by
  rw [typeOf_eq, hs] at h
  obtain ⟨u, _, rfl⟩ := map_eq_ok_iff.mp h
  exact TypeDesc.isNullable_orNull u

/-- The same where the schema may be missing. -/
theorem neverDoubled_typeOf? {s? : Option (OrRef Schema)} (h : schemas.typeOf? s? = .ok t) :
    t.NeverDoubled := by
  cases s? with
  | none =>
      cases h
      trivial
  | some s => exact neverDoubled_typeOf h

end Schemas

/-! ### Operations -/

/-- The types of a pair of parameters. -/
def ParameterPair.types (p : ParameterPair) : List TypeDesc := [p.interface.type, p.caller.type]

/-- The type of what is returned, if it has one. -/
def Returns.type? : Returns → Option TypeDesc
  | .json t => some t
  | .binary => none
  | .empty => none

/-- The types in the signature of an operation. -/
def AnalyzedOperation.types (op : AnalyzedOperation) : List TypeDesc :=
  op.parameters.flatMap (·.types) ++ op.returns.type?.toList

namespace Endpoint

variable {schemas : Schemas} {e : Endpoint} {t : TypeDesc}

/-- What may be left out is made nullable on top of what its schema allows. -/
theorem neverDoubled_of_pairs {pairs : List ParameterPair} {p : ParameterPair}
    (h : e.pairs schemas = .ok pairs) (hp : p ∈ pairs) (ht : t ∈ p.types) : t.NeverDoubled := by
  obtain ⟨_, declared, body, rfl, hdeclared, hbody, _⟩ := forEndpoint_of_pairs h
  obtain ⟨_, _, _, type, required, _, htype, hsends⟩ := exists_typed_of_mem hdeclared hbody hp
  have hpair : t = type.orNullIf !required := by
    simpa [ParameterPair.types, hsends.type_eq, hsends.callerType_eq] using ht
  rw [hpair]
  exact (Schemas.neverDoubled_typeOf? htype).orNullIf _

/-- A response has the type of its schema. -/
theorem neverDoubled_of_returns (ht : (e.returns schemas).type? = some t) : t.NeverDoubled := by
  cases hreturns : e.returns schemas with
  | json type =>
      obtain ⟨body, _, _, htype⟩ := exists_body_of_returns hreturns
      rw [hreturns] at ht
      cases ht
      exact Schemas.neverDoubled_typeOf? htype
  | binary | empty =>
      rw [hreturns] at ht
      cases ht

/-- **Operations.**  No type in a signature is nullable twice. -/
theorem neverDoubled_of_analyze {op : AnalyzedOperation} (h : e.analyze schemas = .ok op)
    (ht : t ∈ op.types) : t.NeverDoubled := by
  obtain ⟨pairs, hpairs, rfl⟩ := map_eq_ok_iff.mp h
  rcases List.mem_append.mp ht with hparameter | hreturns
  · obtain ⟨p, hp, ht⟩ := List.mem_flatMap.mp hparameter
    exact neverDoubled_of_pairs hpairs hp ht
  · exact neverDoubled_of_returns (Option.mem_toList.mp hreturns)

end Endpoint

/-! ### Models -/

/-- The types of the properties of a class, or the target of another name. -/
def Model.types : Model → List TypeDesc
  | .object m => m.properties.map (·.type)
  | .enumeration _ => []
  | .typeAlias m => [m.target]

/-- **Models.**  No type in a model is nullable twice. -/
theorem Schemas.neverDoubled_of_model {schemas : Schemas} {key : String} {m : Model}
    {t : TypeDesc} (h : schemas.model key = .ok m) (ht : t ∈ m.types) : t.NeverDoubled := by
  obtain ⟨s, _, hbuilds⟩ := builds_of_model h
  cases hbuilds with
  | object _ hm =>
      obtain ⟨_, properties, _, hproperties, rfl⟩ := objectModel_eq_ok_iff.mp hm
      obtain ⟨property, hproperty, rfl⟩ := List.mem_map.mp ht
      obtain ⟨p, _, hp⟩ := exists_of_mem_mapM hproperties hproperty
      obtain ⟨u, hu, rfl⟩ := modelProperty_eq_ok_iff.mp hp
      exact (neverDoubled_typeOf hu).orNullIf _
  | enumeration => cases ht
  | typeAlias _ _ _ hm =>
      obtain ⟨u, hu, rfl⟩ := aliasModel_eq_ok_iff.mp hm
      rw [List.mem_singleton.mp ht]
      exact neverDoubled_typeOf hu

/-! ### Analyses -/

/-- Every type in an analysis: those in the signatures of its operations and those in its
models. -/
def Analysis.types (r : Analysis) : List TypeDesc :=
  (r.apis.flatMap fun api => api.operations.flatMap (·.types)) ++ r.models.flatMap (·.types)

/-- **Analyses.**  Whatever a document is and whichever tags are asked for, no type in its
analysis is nullable twice. -/
theorem Analyzer.neverDoubled_of_mem_types {a : Analyzer} {failFast : Bool} {r : Analysis}
    {t : TypeDesc} (h : (a.analyze failFast).value = .ok r) (ht : t ∈ r.types) :
    t.NeverDoubled := by
  obtain rfl := eq_complete_of_analyze h
  rcases List.mem_append.mp ht with hoperation | hmodel
  · obtain ⟨api, hapi, ht⟩ := List.mem_flatMap.mp hoperation
    obtain ⟨op, hop, ht⟩ := List.mem_flatMap.mp ht
    obtain ⟨_, e, _, hanalyzed⟩ := exists_member_of_mem_operations hapi hop
    exact Endpoint.neverDoubled_of_analyze hanalyzed ht
  · obtain ⟨m, hm, ht⟩ := List.mem_flatMap.mp hmodel
    obtain ⟨key, _, hbuilt⟩ := mem_models_iff.mp hm
    exact Schemas.neverDoubled_of_model hbuilt ht

end ClientGen
