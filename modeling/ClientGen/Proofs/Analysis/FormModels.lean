import ClientGen.Proofs.Analysis.Parameters
import ClientGen.Proofs.Model.Build
import ClientGen.Proofs.Model.SelfInclusion
import ClientGen.Proofs.Model.Typing

/-!
# Forms and the classes they refer to

A form whose schema is a reference yields one parameter for each property, and a class is
generated for the schema that is referred to.  Both list the same properties, each in its
own way: the class from the definition, the form from the reference.

* `Endpoint.exists_fieldPairs`: the same properties become parameters and class properties
  that agree;
* `Endpoint.form_agrees_with_model`: a form and its class.
-/

namespace ClientGen

/-- A parameter of a form and a property of a class stand for the same: they have one name in
the data, one type on all sides, and either both or neither may be left out. -/
structure ParameterPair.Matches (placement : Placement) (property : ModelProperty)
    (pair : ParameterPair) : Prop where
  wireName_eq : pair.interface.wireName = property.wireName
  placement_eq : pair.interface.placement = placement
  type_eq : pair.interface.type = property.type
  callerType_eq : pair.caller.type = property.type
  absent_eq : pair.caller.defaultsToAbsent = !property.required

/-- The properties of a class have the names of the properties they are made of. -/
theorem Schemas.wireNames_of_modelProperties {schemas : Schemas} {key : String}
    {flat : List FlatProperty} {properties : List ModelProperty}
    (h : flat.mapM (schemas.modelProperty key) = .ok properties) :
    properties.map (·.wireName) = names flat := by
  refine map_eq_of_mapM (fun p property hproperty => ?_) h
  obtain ⟨t, _, rfl⟩ := modelProperty_eq_ok_iff.mp hproperty
  rfl

namespace Endpoint

variable {schemas : Schemas} {key path : String} {placement : Placement} {r : Representation}

/-- The pairs of a form are those of its properties. -/
theorem bodyPairs_of_formPlacement (e : Endpoint) (h : FormPlacement r.kind.flavor placement) :
    e.bodyPairs schemas r = e.formPairs schemas placement r.schema := by
  rw [bodyPairs]
  generalize r.kind.flavor = flavor at h
  cases h with
  | part => rfl
  | field => rfl

/-- Where a property of a class can be made, so can the parameter of a form. -/
theorem exists_fieldPair (e : Endpoint) (placement : Placement) {p : FlatProperty}
    {property : ModelProperty} (h : schemas.modelProperty key p = .ok property) :
    ∃ pair, e.fieldPair schemas placement p = .ok pair ∧ pair.Matches placement property := by
  obtain ⟨t, ht, rfl⟩ := Schemas.modelProperty_eq_ok_iff.mp h
  refine ⟨.make p.name placement t p.required p.schema.description?, ?_, rfl, rfl, rfl, rfl, rfl⟩
  rw [fieldPair, ht]

/-- **The same properties** become parameters that agree with those of the class, one by one. -/
theorem exists_fieldPairs (e : Endpoint) (placement : Placement) {flat : List FlatProperty}
    {properties : List ModelProperty}
    (h : flat.mapM (schemas.modelProperty key) = .ok properties) :
    ∃ pairs, flat.mapM (e.fieldPair schemas placement) = .ok pairs ∧
      List.Forall₂ (ParameterPair.Matches placement) properties pairs := by
  have hproperties := mapM_eq_ok_iff.mp h
  clear h
  induction hproperties with
  | nil => exact ⟨[], rfl, .nil⟩
  | cons hfirst _ ih =>
      obtain ⟨pair, hpair, hmatches⟩ := exists_fieldPair e placement hfirst
      obtain ⟨rest, hrest, hall⟩ := ih
      have hpairs := mapM_eq_ok_iff.mp hrest
      exact ⟨pair :: rest, mapM_eq_ok_iff.mpr (.cons hpair hpairs), .cons hmatches hall⟩

/-- So do the parameters of a form. -/
theorem wireNames_of_fieldPairs {e : Endpoint} {flat : List FlatProperty}
    {pairs : List ParameterPair} (h : flat.mapM (e.fieldPair schemas placement) = .ok pairs) :
    pairs.map (·.interface.wireName) = Schemas.names flat := by
  refine map_eq_of_mapM (fun p pair hpair => ?_) h
  obtain ⟨t, _, hsends⟩ := forField_of_fieldPair hpair
  exact hsends.wireName_eq

/-- **Forms and classes.**  Let a class be generated for a key, and let a form refer to it.
Then the properties of the form can be listed, and their names are those of the class, in
some order, as are those of the parameters if they can be made.  If moreover the definition of
the key does not include itself, the parameters of the form agree with the properties of the
class one by one, in the same order. -/
theorem form_agrees_with_model (e : Endpoint) {m : ObjectModel}
    (href : schemas.Refers path key) (hm : schemas.model key = .ok (.object m))
    (hform : FormPlacement r.kind.flavor placement) (hr : r.schema = some (.ref path)) :
    (∃ flat, schemas.flatten (.ref path) = .ok flat ∧
      (Schemas.names flat).Perm (m.properties.map (·.wireName))) ∧
    (∀ pairs, e.bodyPairs schemas r = .ok pairs →
      (pairs.map (·.interface.wireName)).Perm (m.properties.map (·.wireName))) ∧
    (¬ schemas.IncludesItself key → ∃ pairs, e.bodyPairs schemas r = .ok pairs ∧
      List.Forall₂ (ParameterPair.Matches placement) m.properties pairs) := by
  obtain ⟨s, flat, hs, hflat, hproperties⟩ := Schemas.exists_flat_of_model hm
  obtain ⟨flat', hflat', hperm⟩ := Schemas.flatten_ref_perm href hs hflat
  rw [← Schemas.wireNames_of_modelProperties hproperties] at hperm
  have hpairs : e.bodyPairs schemas r = flat'.mapM (e.fieldPair schemas placement) := by
    rw [bodyPairs_of_formPlacement e hform, hr, formPairs, hflat']
  refine ⟨⟨flat', hflat', hperm⟩, fun pairs h => ?_, fun hself => ?_⟩
  · rw [hpairs] at h
    rwa [wireNames_of_fieldPairs h]
  · have hnot : ¬ schemas.Includes key (.inline s) := fun h => hself ⟨_, hs, h⟩
    have hsame := (Schemas.flatten_ref_of_not_includes href hs hnot).symm.trans hflat'
    rw [hpairs, ← Except.ok.inj (hflat.symm.trans hsame)]
    exact exists_fieldPairs e placement hproperties

/-! ### One form, and two classes for it -/

/-- A form with the properties of a dog. -/
def dogForm : Representation :=
  ⟨"multipart/form-data", true, some (.ref "#/components/schemas/Dog")⟩

/-- The form of a dog is sent in parts. -/
theorem formPlacement_dogForm : FormPlacement dogForm.kind.flavor .part := by
  have hflavor : dogForm.kind.flavor = .multipart := by decide +kernel
  rw [hflavor]
  exact .part

/-- The endpoint it is sent to. -/
def registerDog : Endpoint := ⟨"/dogs", .post, {}, [], [], .ofText "registerDog"⟩

/-- A schema that allows everything. -/
def free : OrRef Schema := .inline {}

/-- A schema that says nothing has the type of anything. -/
theorem typeOf_free (schemas : Schemas) : schemas.typeOf free = .ok .any := by
  rw [Schemas.typeOf_eq]
  rfl

/-- A composition of properties that allow everything becomes a class with these properties. -/
theorem exists_model_of_free {s : Schema} {base : OrRef Schema} {flat : List FlatProperty}
    (hs : schemas.lookup key = some (.inline s)) (hshape : s.shape = .composed base)
    (hflat : schemas.flatten (.inline s) = .ok flat) (hfree : ∀ p ∈ flat, p.schema = free) :
    ∃ m, schemas.model key = .ok (.object m) ∧
      m.properties = flat.map fun p =>
        ⟨.ofText p.name, p.name, TypeDesc.any.orNullIf !p.required, p.required, none, false⟩ := by
  have hproperties : flat.mapM (schemas.modelProperty key) = .ok (flat.map fun p =>
      ⟨.ofText p.name, p.name, TypeDesc.any.orNullIf !p.required, p.required, none, false⟩) := by
    rw [mapM_eq_ok_iff, List.forall₂_map_right_iff, List.forall₂_same]
    intro p hp
    refine Schemas.modelProperty_eq_ok_iff.mpr ⟨.any, by rw [hfree p hp, typeOf_free], ?_⟩
    rw [hfree p hp]
    rfl
  have hclass := Schemas.objectModel_eq_ok_iff.mpr ⟨flat, _, hflat, hproperties, rfl⟩
  have hmodel : schemas.model key = (schemas.objectModel key s).map .object := by
    rw [Schemas.model, hs]
    simp [Schemas.buildModel, hshape]
  exact ⟨_, by rw [hmodel, hclass]; rfl, rfl⟩

/-- A dog is a pet with a bark. -/
def barkingPet : Schema :=
  { allOf := [.ref "#/components/schemas/Pet"], properties := [("bark", free)] }

/-- Pets with a name, and dogs. -/
def dogIsPet : Schemas :=
  [("Pet", .inline { properties := [("name", free)] }), ("Dog", .inline barkingPet)]

/-- Without self-inclusion the form and the class of a dog agree. -/
theorem dogForm_agrees :
    ∃ m, dogIsPet.model "Dog" = .ok (.object m) ∧ ¬ dogIsPet.IncludesItself "Dog" ∧
      ∃ pairs, registerDog.bodyPairs dogIsPet dogForm = .ok pairs ∧
        List.Forall₂ (ParameterPair.Matches .part) m.properties pairs := by
  have hdog : dogIsPet.Refers "#/components/schemas/Dog" "Dog" :=
    ⟨by decide, by decide, by decide, by decide⟩
  have hpet : dogIsPet.keyOf "#/components/schemas/Pet" = .ok "Pet" := by decide
  have hflat : dogIsPet.flatten (.inline barkingPet) =
      .ok [⟨"name", free, false⟩, ⟨"bark", free, false⟩] := by
    have hfollow : ∀ rest,
        dogIsPet.partsFrom [] (.enter (.ref "#/components/schemas/Pet") :: rest) =
          dogIsPet.partsFrom ["Pet"] (.enter (.inline { properties := [("name", free)] }) :: rest) :=
      fun _ => Schemas.partsFrom_follow hpet List.not_mem_nil rfl
    rw [Schemas.flatten, Schemas.parts]
    simp [Schemas.partsFrom, WalkStep.through, barkingPet, hfollow, Except.map, Schemas.addPart,
      Schemas.declare]
  have hself : ¬ dogIsPet.IncludesItself "Dog" := by
    rintro ⟨s, hs, hincludes⟩
    cases (Option.some.inj hs : .inline barkingPet = s)
    cases hincludes with
    | @member _ m hm h =>
        cases List.mem_singleton.mp hm
        cases h with
        | target href => exact absurd href.path_eq (by decide)
        | @through _ other t href hs h =>
            cases Except.ok.inj (hpet.symm.trans (Schemas.keyOf_eq_ok_iff.mpr href))
            cases (Option.some.inj hs : .inline { properties := [("name", free)] } = t)
            cases h with
            | member hm => cases hm
  have hlookup : dogIsPet.lookup "Dog" = some (.inline barkingPet) := rfl
  obtain ⟨m, hm, _⟩ := exists_model_of_free hlookup rfl hflat (by simp)
  have hagree := form_agrees_with_model registerDog hdog hm formPlacement_dogForm rfl
  exact ⟨m, hm, hself, hagree.2.2 hself⟩

/-! ### Self-inclusion -/

/-- A dog is a pet with a tag. -/
def taggedPet : Schema :=
  { allOf := [.ref "#/components/schemas/Pet", .ref "#/components/schemas/Tag"] }

/-- A pet is a dog with a name, and it may have a number. -/
def namedDog : Schema :=
  { allOf := [.ref "#/components/schemas/Dog"], properties := [("name", free), ("number", free)] }

/-- A tag has a number. -/
def numberTag : Schema := { properties := [("number", free)], required := ["number"] }

/-- A dog is a pet, and a pet a dog. -/
def dogAndPet : Schemas :=
  [("Pet", .inline namedDog), ("Tag", .inline numberTag), ("Dog", .inline taggedPet)]

/-- From the definition a dog is entered again inside the pet, so the tag is met before the pet
comes to its own; from the reference it is met after that. -/
theorem parts_dogAndPet :
    dogAndPet.parts (.inline taggedPet) = .ok [numberTag, taggedPet, namedDog, taggedPet] ∧
    dogAndPet.parts (.ref "#/components/schemas/Dog") = .ok [namedDog, numberTag, taggedPet] := by
  have hdog : ∀ entered rest,
      dogAndPet.partsFrom entered (.enter (.ref "#/components/schemas/Dog") :: rest) =
        if "Dog" ∈ entered then dogAndPet.partsFrom entered rest
        else dogAndPet.partsFrom ("Dog" :: entered) (.enter (.inline taggedPet) :: rest) :=
    fun _ _ => Schemas.partsFrom_ref ⟨by decide, by decide, by decide, by decide⟩ rfl
  have hpet : ∀ entered rest,
      dogAndPet.partsFrom entered (.enter (.ref "#/components/schemas/Pet") :: rest) =
        if "Pet" ∈ entered then dogAndPet.partsFrom entered rest
        else dogAndPet.partsFrom ("Pet" :: entered) (.enter (.inline namedDog) :: rest) :=
    fun _ _ => Schemas.partsFrom_ref ⟨by decide, by decide, by decide, by decide⟩ rfl
  have htag : ∀ entered rest,
      dogAndPet.partsFrom entered (.enter (.ref "#/components/schemas/Tag") :: rest) =
        if "Tag" ∈ entered then dogAndPet.partsFrom entered rest
        else dogAndPet.partsFrom ("Tag" :: entered) (.enter (.inline numberTag) :: rest) :=
    fun _ _ => Schemas.partsFrom_ref ⟨by decide, by decide, by decide, by decide⟩ rfl
  constructor
  · simp [Schemas.parts, Schemas.partsFrom, WalkStep.through, taggedPet, namedDog, numberTag,
      hdog, hpet, htag, Except.map]
  · simp [Schemas.parts, Schemas.partsFrom, WalkStep.through, taggedPet, namedDog, numberTag,
      hdog, hpet, htag, Except.map]

/-- Each of the two takes over the other's property, and each puts its own behind it. -/
theorem flatten_dogAndPet :
    dogAndPet.flatten (.inline taggedPet) =
      .ok [⟨"number", free, false⟩, ⟨"name", free, false⟩] ∧
    dogAndPet.flatten (.ref "#/components/schemas/Dog") =
      .ok [⟨"name", free, false⟩, ⟨"number", free, true⟩] := by
  obtain ⟨hinline, href⟩ := parts_dogAndPet
  rw [Schemas.flatten, Schemas.flatten, hinline, href]
  exact ⟨rfl, rfl⟩

/-- **Self-inclusion.**  The class of a dog that is a pet that is a dog starts with the number,
which is optional; the form starts with the name and requires the number. -/
theorem dogForm_disagrees :
    ∃ m pairs, dogAndPet.model "Dog" = .ok (.object m) ∧
      registerDog.bodyPairs dogAndPet dogForm = .ok pairs ∧
      m.properties.map (fun p => (p.wireName, p.type, p.required)) =
        [("number", .nullable .any, false), ("name", .nullable .any, false)] ∧
      pairs.map (fun p => (p.interface.wireName, p.interface.type, !p.caller.defaultsToAbsent)) =
        [("name", .nullable .any, false), ("number", .any, true)] := by
  have hlookup : dogAndPet.lookup "Dog" = some (.inline taggedPet) := rfl
  obtain ⟨m, hm, hproperties⟩ := exists_model_of_free hlookup rfl flatten_dogAndPet.1 (by simp)
  have hpairs : registerDog.bodyPairs dogAndPet dogForm = .ok
      [.make "name" .part .any false none, .make "number" .part .any true none] := by
    rw [bodyPairs_of_formPlacement _ formPlacement_dogForm, dogForm, formPairs,
      flatten_dogAndPet.2]
    simp [fieldPair, typeOf_free]
    rfl
  exact ⟨m, _, hm, hpairs, by rw [hproperties]; rfl, rfl⟩

end Endpoint

end ClientGen
