import ClientGen.Proofs.Analysis.Orphans
import ClientGen.Proofs.Analysis.Parameters
import ClientGen.Proofs.Analysis.Report
import ClientGen.Proofs.Kotlin.Forwarding
import ClientGen.Proofs.Kotlin.MemberNames
import ClientGen.Proofs.Kotlin.Nullability

/-!
# Defaults and their types

What a document asks of a parameter or a property are the type of its schema and whether it
must be there; a `Demand` is both.  Parameters get it from their declaration, the body from
its own flag, fields and properties from the lists of required names that are merged for
them.  Whatever has to be there is written without a default and with the type of its
schema; everything else defaults to null, and its type admits null.

* `Demand.OfEndpoint`, `Demand.OfClass`: where demands come from;
* `Demand.TypedAs`, `Demand.WrittenAs`: how they show in a type and in a line;
* `Demand.metByFunctions_functionText`, `Demand.metByProperties_of_model`: the functions of an
  operation and the properties of a class;
* `defaults_are_nullable`: everything that is written for a document.
-/

namespace ClientGen

open Kotlin

/-- Where results are related to items whatever their label is, they are so once labelled. -/
theorem forall₂_zipWith {α β γ δ : Type} {R : α → δ → Prop} {f : β → γ → δ} {items : List α}
    {results : List β} {labels : List γ}
    (h : List.Forall₂ (fun a b => ∀ label, R a (f b label)) items results)
    (hlength : labels.length = results.length) :
    List.Forall₂ R items (List.zipWith f results labels) := by
  induction h generalizing labels with
  | nil => exact .nil
  | cons hfirst _ ih =>
      obtain ⟨label, rest, rfl⟩ := List.exists_cons_of_length_eq_add_one hlength
      exact .cons (hfirst label) (ih (Nat.succ.inj hlength))

/-! ### Demands -/

/-- What is asked of a parameter or a property. -/
structure Demand where
  /-- The type of its schema. -/
  type : TypeDesc
  /-- Whether it must be there. -/
  required : Bool

namespace Demand

variable {schemas : Schemas} {e : Endpoint} {pairs : List ParameterPair} {v : Demand}
  {pair : ParameterPair}

/-! ### Where demands come from -/

/-- A declared parameter must be there if its declaration says so, and always in a path. -/
structure OfParameter (schemas : Schemas) (p : Parameter) (v : Demand) : Prop where
  type_ok : schemas.typeOf? p.schema = .ok v.type
  required_iff : v.required = true ↔ p.required = true ∨ p.location = .path

/-- A field or a property must be there if that is what is merged for it. -/
structure OfProperty (schemas : Schemas) (p : FlatProperty) (v : Demand) : Prop where
  type_ok : schemas.typeOf p.schema = .ok v.type
  required_eq : v.required = p.required

/-- A whole body must be there if the request says so, a form asks for its fields, and no
other body asks for anything. -/
inductive OfBody (schemas : Schemas) (e : Endpoint) : List Demand → Prop
  | missing (hr : e.request? = none) : OfBody schemas e []
  | unsupported {r : Representation} (hr : e.request? = some r)
      (hflavor : r.kind.flavor = .unsupported) : OfBody schemas e []
  | whole {r : Representation} {t : TypeDesc} (hr : e.request? = some r)
      (hflavor : r.kind.flavor = .whole) (ht : schemas.typeOf? r.schema = .ok t) :
      OfBody schemas e [⟨t, r.required⟩]
  | empty {r : Representation} {placement : Placement} (hr : e.request? = some r)
      (hform : Endpoint.FormPlacement r.kind.flavor placement) (hs : r.schema = none) :
      OfBody schemas e []
  | form {r : Representation} {placement : Placement} {s : OrRef Schema}
      {properties : List FlatProperty} {demands : List Demand} (hr : e.request? = some r)
      (hform : Endpoint.FormPlacement r.kind.flavor placement) (hs : r.schema = some s)
      (hflat : schemas.flatten s = .ok properties)
      (hdemands : List.Forall₂ (OfProperty schemas) properties demands) : OfBody schemas e demands

/-- An endpoint asks for its declared parameters in their order, and then for its body. -/
def OfEndpoint (schemas : Schemas) (e : Endpoint) (demands : List Demand) : Prop :=
  ∃ declared body, demands = declared ++ body ∧
    List.Forall₂ (OfParameter schemas) e.parameters declared ∧ OfBody schemas e body

/-! ### How demands are written -/

/-- The type of a demand as it is written ends with a question mark exactly if the demand may
be left out or the type of its schema admits null. -/
def TypedAs (v : Demand) (type : String) : Prop :=
  EndsIn type "?" ↔ v.required = false ∨ v.type.isNullable = true

/-- A line ends with the type of a demand, and with a default of null exactly if the demand
may be left out. -/
structure WrittenAs (v : Demand) (type line : String) : Prop where
  line_eq : ∃ front, line = front ++ ": " ++ type ++ (if v.required then "" else " = null")
  default_iff : EndsIn line " = null" ↔ v.required = false
  nullable_iff : v.TypedAs type

/-- A default of null is well typed. -/
theorem WrittenAs.nullable_of_default {type line : String} (h : v.WrittenAs type line)
    (hdefault : EndsIn line " = null") : EndsIn type "?" :=
  h.nullable_iff.mpr (.inl (h.default_iff.mp hdefault))

/-- A type with null added on a condition admits null if the condition holds or it did so
before. -/
theorem isNullable_orNullIf (t : TypeDesc) (condition : Bool) :
    (t.orNullIf condition).isNullable = true ↔ condition = true ∨ t.isNullable = true := by
  cases condition with
  | false => simp [TypeDesc.orNullIf]
  | true => cases t <;> simp [TypeDesc.orNullIf, TypeDesc.orNull, TypeDesc.isNullable]

/-- A text with the type of a demand, nullable unless the demand is required. -/
theorem typedAs_of_endsIn_iff {type : String}
    (h : EndsIn type "?" ↔ (v.type.orNullIf !v.required).isNullable = true) : v.TypedAs type := by
  rw [TypedAs, h, isNullable_orNullIf, Bool.not_eq_true']

/-- A line that is put together from a type and a default. -/
theorem writtenAs_of_line (front : String) {type : String} (htype : '=' ∉ type.toList)
    (hnullable : v.TypedAs type) :
    v.WrittenAs type (front ++ ": " ++ type ++ (if !v.required then " = null" else "")) where
  line_eq := ⟨front, by cases v.required <;> rfl⟩
  default_iff := by rw [endsIn_default_iff front _ htype, Bool.not_eq_true']
  nullable_iff := hnullable

/-! ### Parameters -/

/-- A pair of parameters is for a demand. -/
def Meets (v : Demand) (pair : ParameterPair) : Prop :=
  ∃ wireName placement description, pair.Sends wireName placement v.type v.required description

/-- **In the interface.**  The type of a parameter. -/
theorem Meets.typedAs (h : v.Meets pair) :
    v.TypedAs (interfaceParameterText pair.interface).type := by
  obtain ⟨_, _, _, hsends⟩ := h
  refine typedAs_of_endsIn_iff ?_
  rw [← hsends.type_eq]
  exact parameterType_endsIn_iff pair.interface

/-- **For callers.**  The line of a parameter. -/
theorem Meets.writtenAs (h : v.Meets pair) :
    v.WrittenAs (callerParameterText pair).type (callerParameterText pair).line := by
  have htyped := h.typedAs
  obtain ⟨_, _, _, hsends⟩ := h
  have hline := writtenAs_of_line (escapeIdentifier pair.caller.name)
    (equals_not_mem_parameterType pair.interface) htyped
  rw [← hsends.absent_eq] at hline
  exact hline

/-- A pair for a parameter is for a demand of that parameter. -/
theorem exists_ofParameter {p : Parameter} (h : Endpoint.ForParameter schemas p pair) :
    ∃ v, OfParameter schemas p v ∧ v.Meets pair := by
  obtain ⟨t, ht, hsends⟩ := h
  refine ⟨⟨t, p.isRequired⟩, ⟨ht, ?_⟩, _, _, _, hsends⟩
  simp [Parameter.isRequired]

/-- A pair for a field is for a demand of its property. -/
theorem exists_ofProperty {placement : Placement} {p : FlatProperty}
    (h : Endpoint.ForField schemas placement p pair) :
    ∃ v, OfProperty schemas p v ∧ v.Meets pair := by
  obtain ⟨t, ht, hsends⟩ := h
  exact ⟨⟨t, p.required⟩, ⟨ht, rfl⟩, _, _, _, hsends⟩

/-- The pairs for a body are for its demands. -/
theorem exists_ofBody (h : e.ForBody schemas pairs) :
    ∃ demands, OfBody schemas e demands ∧ List.Forall₂ Meets demands pairs := by
  cases h with
  | missing hr => exact ⟨[], .missing hr, .nil⟩
  | unsupported hr hflavor => exact ⟨[], .unsupported hr hflavor, .nil⟩
  | whole hr hflavor ht hsends =>
      exact ⟨_, .whole hr hflavor ht, .cons ⟨_, _, _, hsends⟩ .nil⟩
  | empty hr hform hs => exact ⟨[], .empty hr hform hs, .nil⟩
  | form hr hform hs hflat hpairs =>
      obtain ⟨demands, hdemands, hmeets⟩ :=
        exists_between_forall₂ (hpairs.imp fun _ _ => exists_ofProperty)
      exact ⟨demands, .form hr hform hs hflat hdemands, hmeets⟩

/-- The pairs of an endpoint are for its demands. -/
theorem exists_ofEndpoint (h : e.pairs schemas = .ok pairs) :
    ∃ demands, OfEndpoint schemas e demands ∧ List.Forall₂ Meets demands pairs := by
  obtain ⟨_, declared, body, rfl, hdeclared, hbody, _⟩ := Endpoint.forEndpoint_of_pairs h
  obtain ⟨parameters, hparameters, hmeets⟩ :=
    exists_between_forall₂ (hdeclared.imp fun _ _ => exists_ofParameter)
  obtain ⟨fields, hfields, hmeetsBody⟩ := exists_ofBody hbody
  exact ⟨parameters ++ fields, ⟨parameters, fields, rfl, hparameters, hfields⟩,
    List.rel_append hmeets hmeetsBody⟩

/-- Two functions are written as an endpoint demands: the one for callers in the order of the
demands, the one of the interface in an order of its own. -/
def MetByFunctions (schemas : Schemas) (e : Endpoint) (f : FunctionText) : Prop :=
  ∃ demands, OfEndpoint schemas e demands ∧
    List.Forall₂ (fun v c => v.WrittenAs c.type c.line) demands f.callerParameters ∧
    ∃ order, order.Perm demands ∧
      List.Forall₂ (fun v i => v.TypedAs i.type) order f.interfaceParameters

/-- **Operations.**  The functions of an operation are written as its endpoint demands. -/
theorem metByFunctions_functionText (options : Options) {op : AnalyzedOperation}
    (h : e.analyze schemas = .ok op) : MetByFunctions schemas e (functionText options op) := by
  obtain ⟨demands, hdemands, hmeets⟩ := exists_ofEndpoint (Endpoint.pairs_of_analyze h)
  refine ⟨demands, hdemands, ?_, ?_⟩
  · have hcallers : (functionText options op).callerParameters =
        op.parameters.map callerParameterText := rfl
    rw [hcallers, List.forall₂_map_right_iff]
    exact hmeets.imp fun _ _ hpair => hpair.writtenAs
  · have hflipped : List.Forall₂ (fun i v => v.TypedAs (interfaceParameterText i).type)
        (op.parameters.map (·.interface)) demands := by
      rw [List.forall₂_map_left_iff]
      exact hmeets.flip.imp fun _ _ hpair => Meets.typedAs hpair
    obtain ⟨order, hordered, hperm⟩ :=
      List.perm_comp_forall₂ (interfaceParameters_perm op) hflipped
    have hinterface : (functionText options op).interfaceParameters =
        op.interfaceParameters.map interfaceParameterText := rfl
    refine ⟨order, hperm, ?_⟩
    rw [hinterface, List.forall₂_map_right_iff]
    exact hordered.flip

/-! ### Properties -/

/-- A property has the type of its schema, whatever its name is. -/
theorem exists_writtenAs_propertyText {key : String} {p : FlatProperty} {property : ModelProperty}
    (h : schemas.modelProperty key p = .ok property) :
    ∃ v, OfProperty schemas p v ∧ ∀ name,
      v.WrittenAs (propertyText property name).type (propertyText property name).line := by
  obtain ⟨t, ht, rfl⟩ := Schemas.modelProperty_eq_ok_iff.mp h
  refine ⟨⟨t, p.required⟩, ⟨ht, rfl⟩, fun name => ?_⟩
  exact writtenAs_of_line ("val " ++ name) (equals_not_mem_typeText _)
    (typedAs_of_endsIn_iff (typeText_endsIn_iff _))

/-- A class asks for what is flattened out of the definition of its key. -/
def OfClass (schemas : Schemas) (key : String) (demands : List Demand) : Prop :=
  ∃ s flat, schemas.lookup key = some (.inline s) ∧ schemas.flatten (.inline s) = .ok flat ∧
    List.Forall₂ (OfProperty schemas) flat demands

/-- The properties of a class are written as the definition of a key demands, in its order. -/
def MetByProperties (schemas : Schemas) (key : String) (m : ObjectModel) : Prop :=
  ∃ demands, OfClass schemas key demands ∧
    List.Forall₂ (fun v p => v.WrittenAs p.type p.line) demands (objectProperties m)

/-- **Classes.**  The properties of a class are written as the definition of its key demands. -/
theorem metByProperties_of_model {key : String} {m : ObjectModel}
    (h : schemas.model key = .ok (.object m)) : MetByProperties schemas key m := by
  obtain ⟨s, flat, hs, hflat, hproperties⟩ := Schemas.exists_flat_of_model h
  obtain ⟨demands, hdemands, hwritten⟩ := exists_between_forall₂
    ((mapM_eq_ok_iff.mp hproperties).imp fun _ _ => exists_writtenAs_propertyText)
  refine ⟨demands, ⟨s, flat, hs, hflat, hdemands⟩, forall₂_zipWith hwritten ?_⟩
  rw [propertyNames, length_uniqueNames, List.length_map]

end Demand

/-! ### Everything that is written -/

/-- **Defaults.**  In every analysis that is not ended by a failure, each operation is that of
an endpoint of its group and each class that of a declared key.  The parameters of both
functions of an operation and the properties of a class are written as the endpoint and the
definition of the key demand: with a default of null exactly if they may be left out, and with
a type that admits null exactly if they may be left out or their schema admits it. -/
theorem defaults_are_nullable (d : Document) (allow : List String) (failFast : Bool)
    (options : Options) {r : Analysis}
    (h : ((Analyzer.ofDocument d allow).value.analyze failFast).value = .ok r) :
    (∀ api ∈ r.apis, ∀ op ∈ api.operations,
        ∃ e ∈ (Analyzer.ofDocument d allow).value.members api.group,
          e.analyze d.schemas = .ok op ∧
            Demand.MetByFunctions d.schemas e (functionText options op)) ∧
      ∀ m, .object m ∈ r.models → Demand.MetByProperties d.schemas m.name.text m := by
  rw [Analyzer.analyze_value] at h
  obtain rfl := eq_of_settle_eq_ok h
  constructor
  · intro api hapi op hop
    obtain ⟨g, _, rfl⟩ := List.mem_map.mp hapi
    rw [Analyzer.filterMap_operationAt?] at hop
    obtain ⟨e, he, hanalyzed⟩ := List.mem_filterMap.mp hop
    have hok : e.analyze d.schemas = .ok op := toOption_eq_some_iff.mp hanalyzed
    exact ⟨e, he, hok, Demand.metByFunctions_functionText options hok⟩
  · intro m hm
    obtain ⟨key, _, hbuilt⟩ := List.mem_filterMap.mp hm
    have hmodel : Schemas.model d.schemas key = .ok (.object m) := toOption_eq_some_iff.mp hbuilt
    have hkey : m.name.text = key := congrArg Name.text (Schemas.name_of_model hmodel)
    rw [hkey]
    exact Demand.metByProperties_of_model hmodel

/-- A text. -/
def plainText : OrRef Schema := .inline { type := some (.single .string) }

/-- A pet has a name, and it may have a note. -/
def petSchema : Schema where
  type := some (.single .object)
  properties := [("name", plainText), ("note", plainText)]
  required := ["name"]

/-- A document with pets and one operation, which has a parameter in its path, one that is
required, one that may be left out, and a body that may be left out. -/
def renamingDocument : Document where
  version := "3.0.3"
  info := { title := "Pets", version := "1" }
  paths := [("/pets/{id}", { operations := [(.put,
    { operationId := some "rename"
      parameters := [.inline { name := "id", location := .path },
        .inline { name := "name", location := .query, required := true,
                  schema := some plainText },
        .inline { name := "note", location := .header }]
      requestBody := some (.inline { content := [("application/json", {})] }) })] })]
  components := some { schemas := [("Pet", .inline petSchema)] }

/-- The class of a pet. -/
def petClass : ObjectModel where
  name := .ofText "Pet"
  description := none
  properties := [⟨.ofText "name", "name", .primitive .string, true, none, false⟩,
    ⟨.ofText "note", "note", .nullable (.primitive .string), false, none, false⟩]
  deprecated := false

/-- The class of a pet is made from its definition. -/
theorem model_pet : Schemas.model renamingDocument.schemas "Pet" = .ok (.object petClass) := by
  have htype : Schemas.typeOf renamingDocument.schemas plainText = .ok (.primitive .string) := by
    rw [Schemas.typeOf_eq]
    rfl
  have hflat : Schemas.flatten renamingDocument.schemas (.inline petSchema) =
      .ok [⟨"name", plainText, true⟩, ⟨"note", plainText, false⟩] := by
    rw [Schemas.flatten_of_uncomposed rfl]
    rfl
  have hproperties : [⟨"name", plainText, true⟩, ⟨"note", plainText, false⟩].mapM
      (Schemas.modelProperty renamingDocument.schemas "Pet") = .ok petClass.properties :=
    mapM_eq_ok_iff.mpr (.cons (Schemas.modelProperty_eq_ok_iff.mpr ⟨_, htype, rfl⟩)
      (.cons (Schemas.modelProperty_eq_ok_iff.mpr ⟨_, htype, rfl⟩) .nil))
  have hclass : Schemas.objectModel renamingDocument.schemas "Pet" petSchema = .ok petClass :=
    Schemas.objectModel_eq_ok_iff.mpr ⟨_, _, hflat, hproperties, rfl⟩
  have hmodel : Schemas.model renamingDocument.schemas "Pet" =
      (Schemas.objectModel renamingDocument.schemas "Pet" petSchema).map .object := rfl
  rw [hmodel, hclass]
  rfl

/-- The parameters for the callers of all operations. -/
def callersOf (options : Options) (r : Analysis) : List CallerParameterText :=
  r.apis.flatMap fun api => api.operations.flatMap fun op =>
    (functionText options op).callerParameters

/-- Two of four parameters and one of two properties have a default, and their types admit
null. -/
theorem defaults_of_renaming :
    ∃ r, ((Analyzer.ofDocument renamingDocument []).value.analyze false).value = .ok r ∧
      (callersOf {} r).map (·.line) =
        ["id: Any", "name: String", "note: Any? = null", "body: Any? = null"] ∧
      (∀ c ∈ callersOf {} r, EndsIn c.line " = null" → EndsIn c.type "?") ∧
      .object petClass ∈ r.models ∧
      (objectProperties petClass).map (·.line) =
        ["val name: String", "val note: String? = null"] ∧
      ∀ p ∈ objectProperties petClass, EndsIn p.line " = null" → EndsIn p.type "?" := by
  have hok := Analyzer.analyze_false_value (Analyzer.ofDocument renamingDocument []).value
  obtain ⟨hoperations, hclasses⟩ := defaults_are_nullable renamingDocument [] false {} hok
  have hpet : .object petClass ∈ (Analyzer.ofDocument renamingDocument []).value.complete.models :=
    List.mem_filterMap.mpr ⟨"Pet", by decide +kernel, toOption_eq_some_iff.mpr model_pet⟩
  refine ⟨_, hok, by decide +kernel, fun c hc hdefault => ?_, hpet, by decide +kernel,
    fun p hp hdefault => ?_⟩
  · obtain ⟨api, hapi, hc⟩ := List.mem_flatMap.mp hc
    obtain ⟨op, hop, hc⟩ := List.mem_flatMap.mp hc
    obtain ⟨_, _, _, _, _, hwritten, _⟩ := hoperations api hapi op hop
    obtain ⟨v, _, hv⟩ := exists_of_mem_forall₂ hwritten hc
    exact hv.nullable_of_default hdefault
  · obtain ⟨_, _, hwritten⟩ := hclasses petClass hpet
    obtain ⟨v, _, hv⟩ := exists_of_mem_forall₂ hwritten hp
    exact hv.nullable_of_default hdefault

end ClientGen
