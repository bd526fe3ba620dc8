import ClientGen.Analysis.Operation
import ClientGen.Proofs.Outcome
import ClientGen.Proofs.Unique

/-!
# What the parameters of an endpoint are for

A pair of parameters is made for a declared parameter, for a whole body or for a field of a
form, and it says under which name, where and with which type that is sent.  Making the
names of all pairs different changes nothing but the names.

* `ParameterPair.Sends`: what a pair is for, whatever its name;
* `forall₂_disambiguate`, `nodup_names_disambiguate`: new names;
* `Endpoint.forParameters_of_declaredPairs`, `Endpoint.forBody_of_requestPairs`: the pairs of
  the declared parameters and of the request body;
* `Endpoint.forEndpoint_of_pairs`: all pairs together;
* `Endpoint.leftReference?_eq_none_iff`: nothing is left out on the way.
-/

namespace ClientGen

namespace ParameterPair

/-- A pair is for a value that is sent under a name in some place.  On both sides it has the
type of the value, or null if the value is not required, and one name: the words of the
name that is sent, perhaps with digits behind them. -/
structure Sends (pair : ParameterPair) (wireName : String) (placement : Placement)
    (type : TypeDesc) (required : Bool) (description : Option String) : Prop where
  wireName_eq : pair.interface.wireName = wireName
  placement_eq : pair.interface.placement = placement
  type_eq : pair.interface.type = type.orNullIf !required
  callerType_eq : pair.caller.type = type.orNullIf !required
  absent_eq : pair.caller.defaultsToAbsent = !required
  description_eq : pair.caller.description = description
  name : HasDigitsBehind (Name.ofText wireName).camel pair.interface.name
  callerName_eq : pair.caller.name = pair.interface.name

/-- A pair is another one under a new name, which adds some digits at most. -/
def Renames (new old : ParameterPair) : Prop :=
  ∃ name, new = old.rename name ∧ HasDigitsBehind old.interface.name name

variable {pair new : ParameterPair} {wireName : String} {placement : Placement}
  {type : TypeDesc} {required : Bool} {description : Option String}

/-- A pair that is made for a parameter sends it as it was told. -/
theorem sends_make :
    (make wireName placement type required description).Sends wireName placement type required
      description :=
  ⟨rfl, rfl, rfl, rfl, rfl, rfl, hasDigitsBehind_refl _, rfl⟩

/-- Under another name a pair is for the same value. -/
theorem Renames.sends (h : new.Renames pair)
    (hpair : pair.Sends wireName placement type required description) :
    new.Sends wireName placement type required description := by
  obtain ⟨name, rfl, hname⟩ := h
  exact ⟨hpair.wireName_eq, hpair.placement_eq, hpair.type_eq, hpair.callerType_eq,
    hpair.absent_eq, hpair.description_eq, hpair.name.trans hname, rfl⟩

end ParameterPair

open ParameterPair (Renames)

/-! ### New names -/

/-- New names are given to pairs one by one. -/
theorem forall₂_rename {pairs : List ParameterPair} {names : List String}
    (h : List.Forall₂ (IsGivenFor "") (pairs.map (·.interface.name)) names) :
    List.Forall₂ Renames (List.zipWith ParameterPair.rename pairs names) pairs ∧
      (List.zipWith ParameterPair.rename pairs names).map (·.interface.name) = names := by
  induction pairs generalizing names with
  | nil =>
      cases h
      exact ⟨.nil, rfl⟩
  | cons pair rest ih =>
      cases h with
      | cons hfirst hnames =>
          obtain ⟨hrest, heq⟩ := ih hnames
          exact ⟨.cons ⟨_, rfl, hfirst.hasDigitsBehind⟩ hrest, congrArg (_ :: ·) heq⟩

/-- **New names** change nothing else, and the pairs stay where they are. -/
theorem forall₂_disambiguate (pairs : List ParameterPair) :
    List.Forall₂ Renames (disambiguate pairs) pairs :=
  (forall₂_rename (forall₂_uniqueNames "" _)).1

/-- The new names differ. -/
theorem nodup_names_disambiguate (pairs : List ParameterPair) :
    ((disambiguate pairs).map (·.interface.name)).Nodup := by
  have hnames := (forall₂_rename (forall₂_uniqueNames "" (pairs.map (·.interface.name)))).2
  rw [disambiguate, hnames]
  exact nodup_uniqueNames _ _

namespace Endpoint

variable {schemas : Schemas} {e : Endpoint} {pairs : List ParameterPair}

/-! ### One pair -/

/-- A pair is for a declared parameter. -/
def ForParameter (schemas : Schemas) (p : Parameter) (pair : ParameterPair) : Prop :=
  ∃ t, schemas.typeOf? p.schema = .ok t ∧
    pair.Sends p.name p.location.placement t p.isRequired p.description

/-- A pair is for a field of a form. -/
def ForField (schemas : Schemas) (placement : Placement) (p : FlatProperty)
    (pair : ParameterPair) : Prop :=
  ∃ t, schemas.typeOf p.schema = .ok t ∧
    pair.Sends p.name placement t p.required p.schema.description?

/-- Where the fields of a form are sent. -/
inductive FormPlacement : BodyFlavor → Placement → Prop
  | part : FormPlacement .multipart .part
  | field : FormPlacement .urlEncoded .field

/-- Only bodies that are forms have a placement for their fields. -/
theorem FormPlacement.isForm {flavor : BodyFlavor} {placement : Placement}
    (h : FormPlacement flavor placement) : flavor = .multipart ∨ flavor = .urlEncoded := by
  cases h with
  | part => exact .inl rfl
  | field => exact .inr rfl

/-- Some pairs are all those for the request body of an endpoint: none without a body, with
an unsupported one or for a form without a schema, one for a whole body, and one for each
field of a form. -/
inductive ForBody (schemas : Schemas) (e : Endpoint) : List ParameterPair → Prop
  | missing (hr : e.request? = none) : ForBody schemas e []
  | unsupported {r : Representation} (hr : e.request? = some r)
      (hflavor : r.kind.flavor = .unsupported) : ForBody schemas e []
  | whole {r : Representation} {t : TypeDesc} {pair : ParameterPair} (hr : e.request? = some r)
      (hflavor : r.kind.flavor = .whole) (ht : schemas.typeOf? r.schema = .ok t)
      (hpair : pair.Sends bodyParameter .body t r.required
        (e.requestBody?.bind RequestBody.description)) :
      ForBody schemas e [pair]
  | empty {r : Representation} {placement : Placement} (hr : e.request? = some r)
      (hform : FormPlacement r.kind.flavor placement) (hs : r.schema = none) :
      ForBody schemas e []
  | form {r : Representation} {placement : Placement} {s : OrRef Schema}
      {properties : List FlatProperty} {pairs : List ParameterPair} (hr : e.request? = some r)
      (hform : FormPlacement r.kind.flavor placement) (hs : r.schema = some s)
      (hflat : schemas.flatten s = .ok properties)
      (hpairs : List.Forall₂ (ForField schemas placement) properties pairs) :
      ForBody schemas e pairs

/-- New names leave pairs for what they are for. -/
theorem forall₂_of_renames {α : Type} {IsFor : α → ParameterPair → Prop} {items : List α}
    {old new : List ParameterPair} (hnew : List.Forall₂ Renames new old)
    (hkeep : ∀ item pair pair', IsFor item pair → pair'.Renames pair → IsFor item pair')
    (hold : List.Forall₂ IsFor items old) : List.Forall₂ IsFor items new := by
  induction hnew generalizing items with
  | nil => exact hold
  | cons hfirst _ ih =>
      cases hold with
      | cons hitem hitems => exact .cons (hkeep _ _ _ hitem hfirst) (ih hitems)

/-- A pair under another name is for the same parameter. -/
theorem ForParameter.renames {p : Parameter} {pair pair' : ParameterPair}
    (h : ForParameter schemas p pair) (hname : pair'.Renames pair) :
    ForParameter schemas p pair' := by
  obtain ⟨t, ht, hpair⟩ := h
  exact ⟨t, ht, hname.sends hpair⟩

/-- A pair under another name is for the same field. -/
theorem ForField.renames {placement : Placement} {p : FlatProperty} {pair pair' : ParameterPair}
    (h : ForField schemas placement p pair) (hname : pair'.Renames pair) :
    ForField schemas placement p pair' := by
  obtain ⟨t, ht, hpair⟩ := h
  exact ⟨t, ht, hname.sends hpair⟩

/-- Pairs under other names are for the same body. -/
theorem ForBody.renames {old new : List ParameterPair} (h : e.ForBody schemas old)
    (hnew : List.Forall₂ Renames new old) : e.ForBody schemas new := by
  cases h with
  | missing hr =>
      cases hnew
      exact .missing hr
  | unsupported hr hflavor =>
      cases hnew
      exact .unsupported hr hflavor
  | whole hr hflavor ht hpair =>
      cases hnew with
      | cons hfirst hrest =>
          cases hrest
          exact .whole hr hflavor ht (hfirst.sends hpair)
  | empty hr hform hs =>
      cases hnew
      exact .empty hr hform hs
  | form hr hform hs hflat hpairs =>
      exact .form hr hform hs hflat
        (forall₂_of_renames hnew (fun _ _ _ => ForField.renames) hpairs)

/-- Each pair of an endpoint is for something, and its type is that of a schema. -/
theorem exists_typed_of_mem {params : List Parameter} {declared body : List ParameterPair}
    {pair : ParameterPair} (hdeclared : List.Forall₂ (ForParameter schemas) params declared)
    (hbody : e.ForBody schemas body) (hpair : pair ∈ declared ++ body) :
    ∃ s? wireName placement type required description, schemas.typeOf? s? = .ok type ∧
      pair.Sends wireName placement type required description := by
  rcases List.mem_append.mp hpair with hpair | hpair
  · obtain ⟨p, _, t, ht, hsends⟩ := exists_of_mem_forall₂ hdeclared hpair
    exact ⟨p.schema, _, _, _, _, _, ht, hsends⟩
  · cases hbody with
    | @whole r _ _ _ _ ht hsends =>
        rw [List.mem_singleton.mp hpair]
        exact ⟨r.schema, _, _, _, _, _, ht, hsends⟩
    | form _ _ _ _ hpairs =>
        obtain ⟨p, _, t, ht, hsends⟩ := exists_of_mem_forall₂ hpairs hpair
        exact ⟨some p.schema, _, _, _, _, _, ht, hsends⟩
    | _ => cases hpair

/-- Each pair of an endpoint sends something somewhere. -/
theorem exists_sends_of_mem {params : List Parameter} {declared body : List ParameterPair}
    {pair : ParameterPair} (hdeclared : List.Forall₂ (ForParameter schemas) params declared)
    (hbody : e.ForBody schemas body) (hpair : pair ∈ declared ++ body) :
    ∃ wireName placement type required description,
      pair.Sends wireName placement type required description := by
  obtain ⟨_, _, _, _, _, _, _, hsends⟩ := exists_typed_of_mem hdeclared hbody hpair
  exact ⟨_, _, _, _, _, hsends⟩

/-! ### The pairs that are made -/

/-- The pair that is made for a parameter is for it. -/
theorem forParameter_of_parameterPair {p : Parameter} {pair : ParameterPair}
    (h : e.parameterPair schemas p = .ok pair) : ForParameter schemas p pair := by
  rw [parameterPair] at h
  cases ht : schemas.typeOf? p.schema with
  | error cause =>
      rw [ht] at h
      cases h
  | ok t =>
      rw [ht] at h
      cases h
      exact ⟨t, ht, ParameterPair.sends_make⟩

/-- The pair that is made for a field is for it. -/
theorem forField_of_fieldPair {placement : Placement} {p : FlatProperty} {pair : ParameterPair}
    (h : e.fieldPair schemas placement p = .ok pair) : ForField schemas placement p pair := by
  rw [fieldPair] at h
  cases ht : schemas.typeOf p.schema with
  | error cause =>
      rw [ht] at h
      cases h
  | ok t =>
      rw [ht] at h
      cases h
      exact ⟨t, ht, ParameterPair.sends_make⟩

/-- The pairs of the declared parameters, in their order. -/
theorem forParameters_of_declaredPairs (h : e.declaredPairs schemas = .ok pairs) :
    e.leftReference? = none ∧ List.Forall₂ (ForParameter schemas) e.parameters pairs := by
  rw [declaredPairs] at h
  cases hleft : e.leftReference? with
  | some failure =>
      rw [hleft] at h
      cases h
  | none =>
      rw [hleft] at h
      exact ⟨rfl, (mapM_eq_ok_iff.mp h).imp fun _ _ => forParameter_of_parameterPair⟩

/-- The pairs of a form. -/
theorem forBody_of_formPairs {r : Representation} {placement : Placement}
    (hr : e.request? = some r) (hform : FormPlacement r.kind.flavor placement)
    (h : e.formPairs schemas placement r.schema = .ok pairs) : e.ForBody schemas pairs := by
  cases hs : r.schema with
  | none =>
      rw [hs, formPairs] at h
      cases h
      exact .empty hr hform hs
  | some s =>
      rw [hs, formPairs] at h
      cases hflat : schemas.flatten s with
      | error cause =>
          rw [hflat] at h
          cases h
      | ok properties =>
          rw [hflat] at h
          exact .form hr hform hs hflat
            ((mapM_eq_ok_iff.mp h).imp fun _ _ => forField_of_fieldPair)

/-- The pairs of the request body. -/
theorem forBody_of_requestPairs (h : e.requestPairs schemas = .ok pairs) :
    e.ForBody schemas pairs := by
  rw [requestPairs] at h
  cases hr : e.request? with
  | none =>
      rw [hr] at h
      cases h
      exact .missing hr
  | some r =>
      rw [hr] at h
      change e.bodyPairs schemas r = .ok pairs at h
      rw [bodyPairs] at h
      cases hflavor : r.kind.flavor with
      | whole =>
          rw [hflavor] at h
          cases ht : schemas.typeOf? r.schema with
          | error cause =>
              rw [ht] at h
              cases h
          | ok t =>
              rw [ht] at h
              cases h
              exact .whole hr hflavor ht ParameterPair.sends_make
      | multipart =>
          rw [hflavor] at h
          exact forBody_of_formPairs hr (hflavor ▸ .part) h
      | urlEncoded =>
          rw [hflavor] at h
          exact forBody_of_formPairs hr (hflavor ▸ .field) h
      | unsupported =>
          rw [hflavor] at h
          cases h
          exact .unsupported hr hflavor

/-- **All pairs** of an endpoint: those of the declared parameters, none of which is left out,
and those of the request body, under names that differ. -/
theorem forEndpoint_of_pairs (h : e.pairs schemas = .ok pairs) :
    e.leftReference? = none ∧ ∃ declared body, pairs = declared ++ body ∧
      List.Forall₂ (ForParameter schemas) e.parameters declared ∧ e.ForBody schemas body ∧
      (pairs.map (·.interface.name)).Nodup := by
  obtain ⟨declared, hdeclared, h⟩ := bind_eq_ok_iff.mp h
  obtain ⟨body, hbody, h⟩ := bind_eq_ok_iff.mp h
  cases h
  obtain ⟨hleft, hparameters⟩ := forParameters_of_declaredPairs hdeclared
  have hrenames := forall₂_disambiguate (declared ++ body)
  refine ⟨hleft, (disambiguate (declared ++ body)).take declared.length,
    (disambiguate (declared ++ body)).drop declared.length, (List.take_append_drop _ _).symm,
    ?_, ?_, nodup_names_disambiguate _⟩
  · exact forall₂_of_renames (List.forall₂_take_append _ _ _ hrenames)
      (fun _ _ _ => ForParameter.renames) hparameters
  · exact (forBody_of_requestPairs hbody).renames (List.forall₂_drop_append _ _ _ hrenames)

/-- The parameters of an operation are the pairs of its endpoint. -/
theorem pairs_of_analyze {op : AnalyzedOperation} (h : e.analyze schemas = .ok op) :
    e.pairs schemas = .ok op.parameters := by
  obtain ⟨pairs, hpairs, rfl⟩ := map_eq_ok_iff.mp h
  exact hpairs

/-- Nothing but its pairs can keep an endpoint from becoming an operation. -/
theorem exists_analyze_of_pairs (h : e.pairs schemas = .ok pairs) :
    ∃ op, e.analyze schemas = .ok op ∧ op.parameters = pairs ∧ op.method = e.method :=
  ⟨_, map_eq_ok_iff.mpr ⟨pairs, h, rfl⟩, rfl, rfl⟩

/-! ### References that are left -/

/-- An entry has a path exactly if it is a reference. -/
theorem path?_eq_some_iff {α : Type} {entry : OrRef α} {path : String} :
    entry.path? = some path ↔ entry = .ref path := by
  cases entry <;> simp [OrRef.path?]

/-- No reference is left exactly if all parameters and the body, if there is one, are given
in place. -/
theorem leftReference?_eq_none_iff :
    e.leftReference? = none ↔ e.operation.parameters = e.parameters.map .inline ∧
      ∀ path, e.operation.requestBody ≠ some (.ref path) := by
  have hparameters : e.operation.parameters.findSome? OrRef.path? = none ↔
      e.operation.parameters = e.parameters.map .inline := by
    rw [List.findSome?_eq_none_iff, parameters]
    generalize e.operation.parameters = entries
    induction entries with
    | nil => simp
    | cons entry rest ih =>
        rw [List.forall_mem_cons, ih]
        cases entry with
        | ref path =>
            have hlength := List.length_filterMap_le OrRef.item? rest
            simp only [OrRef.path?, reduceCtorEq, false_and, false_iff]
            intro h
            have hsame := congrArg List.length h
            simp only [List.filterMap_cons, OrRef.item?, List.length_cons, List.length_map] at hsame
            omega
        | inline p => simp [OrRef.path?, OrRef.item?]
  have hbody : e.operation.requestBody.bind OrRef.path? = none ↔
      ∀ path, e.operation.requestBody ≠ some (.ref path) := by
    cases e.operation.requestBody with
    | none => simp
    | some entry => cases entry <;> simp [OrRef.path?]
  rw [leftReference?, ← hparameters, ← hbody]
  cases e.operation.parameters.findSome? OrRef.path? <;> simp

/-- The reference that is left is reported with the parameter or the body it stands for. -/
theorem leftReference?_eq_some {failure : Failure} (h : e.leftReference? = some failure) :
    ∃ left, (.ref left ∈ e.operation.parameters ∧
        failure = .parameter e.method e.path left (.unresolved left)) ∨
      (e.operation.requestBody = some (.ref left) ∧
        failure = .requestBody e.method e.path (.unresolved left)) := by
  rw [leftReference?] at h
  cases hfound : e.operation.parameters.findSome? OrRef.path? with
  | some left =>
      rw [hfound] at h
      obtain ⟨entry, hentry, hpath⟩ := List.exists_of_findSome?_eq_some hfound
      rw [path?_eq_some_iff.mp hpath] at hentry
      exact ⟨left, .inl ⟨hentry, (Option.some.inj h).symm⟩⟩
  | none =>
      rw [hfound] at h
      obtain ⟨left, hleft, rfl⟩ := Option.map_eq_some_iff.mp h
      obtain ⟨entry, hentry, hpath⟩ := Option.bind_eq_some_iff.mp hleft
      rw [path?_eq_some_iff.mp hpath] at hentry
      exact ⟨left, .inr ⟨hentry, rfl⟩⟩

/-- A reference that is left ends it all. -/
theorem pairs_of_leftReference? {failure : Failure} (h : e.leftReference? = some failure) :
    e.pairs schemas = .error failure := by
  rw [pairs, declaredPairs, h]
  rfl

end Endpoint

end ClientGen
