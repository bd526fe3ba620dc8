import ClientGen.Proofs.Analysis.RequestBody
import ClientGen.Proofs.Kotlin.Forwarding
import ClientGen.Proofs.Model.Composition

/-!
# Annotations of request bodies

A function says on itself that it sends a form, and on its parameters which of them are the
body, a part or a field.  The one comes from the flavor of the request body and the other
from where each parameter is sent; since the parameters fit the flavor, the annotations fit
each other.

Whether a call that deletes brings a body is told by a third test, which looks for a whole
body alone: with a form it stays a plain one, and the annotations contradict each other.

* `countMarked_functionText`: annotations of parameters;
* `multipart_mem_markers_iff`, `formUrlEncoded_mem_markers_iff`: annotations of forms;
* `body_markers_agree`: both together;
* `delete_says_body_iff`: calls that delete.
-/

namespace ClientGen.Kotlin

variable {schemas : Schemas} {e : Endpoint} {op : AnalyzedOperation}

/-! ### Parameters -/

/-- The annotation of parameters that are sent in a place. -/
def placementWord : Placement → String
  | .path => "Path"
  | .query => "Query"
  | .header => "Header"
  | .cookie => "Header"
  | .body => "Body"
  | .part => "Part"
  | .field => "Field"

/-- The annotation of a parameter is named for its placement. -/
theorem word_parameterMarker (p : InterfaceParameter) :
    (parameterMarker p).word = placementWord p.placement := by
  rw [parameterMarker]
  cases p.placement <;> rfl

/-- The annotations of a request body are used for nothing else. -/
theorem placementWord_eq_iff {p q : Placement} (hp : p ∈ bodyPlacements) :
    placementWord q = placementWord p ↔ q = p := by
  cases p <;> cases q <;> simp_all [placementWord, bodyPlacements]

/-- How many parameters of the interface have an annotation. -/
def FunctionText.countMarked (f : FunctionText) (word : String) : Nat :=
  (f.interfaceParameters.map (·.marker.word)).count word

/-- As many parameters have the annotation of a request body as are sent in its place. -/
theorem countMarked_functionText (options : Options) (op : AnalyzedOperation) {p : Placement}
    (hp : p ∈ bodyPlacements) :
    (functionText options op).countMarked (placementWord p) = op.countAt p := by
  have hwords : (functionText options op).interfaceParameters.map (·.marker.word) =
      op.interfaceParameters.map fun q => placementWord q.placement := by
    change (op.interfaceParameters.map interfaceParameterText).map (·.marker.word) = _
    rw [List.map_map]
    exact List.map_congr_left fun q _ => word_parameterMarker q
  have hperm := (interfaceParameters_perm op).map fun q => placementWord q.placement
  rw [FunctionText.countMarked, hwords, hperm.count_eq, AnalyzedOperation.countAt, List.map_map,
    List.count_eq_countP, List.count_eq_countP, List.countP_map, List.countP_map]
  apply List.countP_congr
  intro pair _
  simp only [Function.comp_apply, beq_iff_eq]
  exact placementWord_eq_iff hp

/-! ### Functions -/

/-- The concerns that annotations of functions divide among them. -/
inductive MarkerRole where
  | deprecation
  | call
  | authorization
  | form
  deriving DecidableEq, Repr

/-- What an annotation of a function is about. -/
def FunctionMarker.role : FunctionMarker → MarkerRole
  | .deprecated => .deprecation
  | .verb _ _ => .call
  | .http _ _ _ => .call
  | .headers _ => .authorization
  | .multipart => .form
  | .formUrlEncoded => .form

variable {m : FunctionMarker}

/-- The annotations of an operation, one by one. -/
theorem mem_functionMarkers_iff :
    m ∈ functionMarkers op ↔ (op.deprecated = true ∧ m = .deprecated) ∨ m = callMarker op ∨
      authMarkers? op = some m ∨ formMarker? op = some m := by
  cases hdeprecated : op.deprecated <;> simp [functionMarkers, hdeprecated]

theorem role_callMarker (op : AnalyzedOperation) : (callMarker op).role = .call := by
  rw [callMarker]
  split
  · split <;> rfl
  · rfl
  · rfl

theorem role_of_authMarkers? (h : authMarkers? op = some m) : m.role = .authorization := by
  rw [authMarkers?] at h
  split at h
  · cases h
  · cases h
    rfl

/-- A form is annotated by its flavor if there are any fields. -/
theorem formMarker?_eq_some_iff :
    formMarker? op = some m ↔
      (op.flavor = some .multipart ∧ hasPlacement op .part = true ∧ m = .multipart) ∨
        (op.flavor = some .urlEncoded ∧ hasPlacement op .field = true ∧ m = .formUrlEncoded) := by
  rw [formMarker?]
  cases hflavor : op.flavor with
  | none => simp
  | some flavor => cases flavor <;> simp [@eq_comm _ m]

theorem role_of_formMarker? (h : formMarker? op = some m) : m.role = .form := by
  rcases formMarker?_eq_some_iff.mp h with ⟨_, _, rfl⟩ | ⟨_, _, rfl⟩ <;> rfl

/-- The annotation of a call is the one with its method and path. -/
theorem mem_functionMarkers_of_call (hm : m.role = .call) :
    m ∈ functionMarkers op ↔ m = callMarker op := by
  rw [mem_functionMarkers_iff]
  constructor
  · intro h
    rcases h with ⟨_, rfl⟩ | hcall | hauth | hform
    · cases hm
    · exact hcall
    · cases hm.symm.trans (role_of_authMarkers? hauth)
    · cases hm.symm.trans (role_of_formMarker? hform)
  · intro h
    exact .inr (.inl h)

/-- The annotation of a form is the one that its flavor has. -/
theorem mem_functionMarkers_of_form (hm : m.role = .form) :
    m ∈ functionMarkers op ↔ formMarker? op = some m := by
  rw [mem_functionMarkers_iff]
  constructor
  · intro h
    rcases h with ⟨_, rfl⟩ | rfl | hauth | hform
    · cases hm
    · cases hm.symm.trans (role_callMarker op)
    · cases hm.symm.trans (role_of_authMarkers? hauth)
    · exact hform
  · intro h
    exact .inr (.inr (.inr h))

/-- An operation has a placement exactly if something is counted there. -/
theorem hasPlacement_iff {p : Placement} : hasPlacement op p = true ↔ 0 < op.countAt p := by
  rw [countAt_pos_iff, hasPlacement, List.any_eq_true]
  simp only [beq_iff_eq]

/-- A form of parts is annotated exactly if there are parts. -/
theorem multipart_mem_markers_iff (h : FitsFlavor op.countAt op.flavor) :
    .multipart ∈ functionMarkers op ↔ 0 < op.countAt .part := by
  rw [mem_functionMarkers_of_form rfl, formMarker?_eq_some_iff]
  constructor
  · intro hform
    rcases hform with ⟨_, hparts, _⟩ | ⟨_, _, hother⟩
    · exact hasPlacement_iff.mp hparts
    · cases hother
  · intro hparts
    exact .inl ⟨h.flavor_of_part hparts, hasPlacement_iff.mpr hparts, rfl⟩

/-- A form of fields is annotated exactly if there are fields. -/
theorem formUrlEncoded_mem_markers_iff (h : FitsFlavor op.countAt op.flavor) :
    .formUrlEncoded ∈ functionMarkers op ↔ 0 < op.countAt .field := by
  rw [mem_functionMarkers_of_form rfl, formMarker?_eq_some_iff]
  constructor
  · intro hform
    rcases hform with ⟨_, _, hother⟩ | ⟨_, hfields, _⟩
    · cases hother
    · exact hasPlacement_iff.mp hfields
  · intro hfields
    exact .inr ⟨h.flavor_of_field hfields, hasPlacement_iff.mpr hfields, rfl⟩

/-- A file. -/
def photoFile : OrRef Schema := .inline { type := some (.single .string), format := some "binary" }

/-- A form with a file. -/
def photoForm : OrRef Schema :=
  .inline { properties := [("file", photoFile)], required := ["file"] }

/-- An endpoint with a parameter of the path and a form. -/
def photo (method : Method) : Endpoint where
  path := "/pets/{id}/photo"
  method := method
  operation :=
    { parameters := [.inline { name := "id", location := .path }]
      requestBody := some (.inline { content := [("multipart/form-data", ⟨some photoForm⟩)] }) }
  tags := []
  securityNames := []
  name := .ofText "photo"

/-- The parameters of the endpoint. -/
def photoPairs : List ParameterPair :=
  disambiguate [.make "id" .path .any true none, .make "file" .part (.primitive .binary) true none]

/-- The form has one property. -/
theorem flatten_photoForm : Schemas.flatten [] photoForm = .ok [⟨"file", photoFile, true⟩] := by
  rw [photoForm, Schemas.flatten_of_uncomposed rfl]
  rfl

/-- The endpoint has a parameter of the path and one part. -/
theorem pairs_photo (method : Method) : (photo method).pairs [] = .ok photoPairs := by
  have hdeclared : (photo method).declaredPairs [] = .ok [.make "id" .path .any true none] := rfl
  have htype : Schemas.typeOf [] photoFile = .ok (.primitive .binary) := by
    rw [Schemas.typeOf]
    rfl
  have hfield : (photo method).fieldPair [] .part ⟨"file", photoFile, true⟩ =
      .ok (.make "file" .part (.primitive .binary) true none) := by
    rw [Endpoint.fieldPair, htype]
    rfl
  have hrequest : (photo method).requestPairs [] =
      .ok [.make "file" .part (.primitive .binary) true none] := by
    change (photo method).formPairs [] .part (some photoForm) = _
    rw [Endpoint.formPairs, flatten_photoForm]
    change [_].mapM _ = _
    rw [List.mapM_cons, hfield]
    rfl
  rw [Endpoint.pairs, hdeclared, hrequest]
  rfl

/-- The endpoint fails for no method, and its form has one part. -/
theorem exists_analyze_photo (method : Method) :
    ∃ op, (photo method).analyze [] = .ok op ∧ op.method = method ∧
      op.countAt .part = 1 ∧ op.countAt .body = 0 := by
  obtain ⟨op, hop, hparameters, hmethod⟩ := Endpoint.exists_analyze_of_pairs (pairs_photo method)
  refine ⟨op, hop, hmethod, ?_, ?_⟩ <;> rw [AnalyzedOperation.countAt, hparameters]
  · decide +kernel
  · decide +kernel

/-- Only a whole body counts as one. -/
theorem hasBody_iff : op.hasBody = true ↔ 0 < op.countAt .body :=
  hasPlacement_iff

/-- A call that deletes is written with a body only if one parameter is the whole body. -/
theorem callMarker_of_delete (hdelete : op.method = .delete) :
    callMarker op = if op.hasBody then .http .delete (relativePath op.path) true
      else .verb .delete (relativePath op.path) := by
  rw [callMarker, hdelete]

/-- The annotation of a call that deletes says that it brings a body. -/
def FunctionText.SaysBody (f : FunctionText) (path : String) : Prop :=
  .http .delete (relativePath path) true ∈ f.markers

/-- On a plain call that deletes nothing is about a request body. -/
def FunctionText.PlainDeleteIsBare (f : FunctionText) : Prop :=
  ∀ path, .verb .delete path ∈ f.markers →
    f.countMarked "Body" = 0 ∧ .multipart ∉ f.markers ∧ .formUrlEncoded ∉ f.markers

/-- A deletion says that it has a body exactly if it has a whole one. -/
theorem saysBody_iff (options : Options) (hdelete : op.method = .delete) :
    (functionText options op).SaysBody op.path ↔ 0 < op.countAt .body := by
  change _ ∈ functionMarkers op ↔ _
  rw [mem_functionMarkers_of_call rfl, callMarker_of_delete hdelete, ← hasBody_iff]
  cases op.hasBody <;> simp

/-- A deletion is written with its plain verb exactly if it has no whole body. -/
theorem verb_mem_markers_iff {path : String} (hdelete : op.method = .delete) :
    .verb .delete path ∈ functionMarkers op ↔
      op.countAt .body = 0 ∧ path = relativePath op.path := by
  have hbody : op.countAt .body = 0 ↔ op.hasBody = false := by
    rw [← Bool.not_eq_true, hasBody_iff]
    omega
  rw [mem_functionMarkers_of_call rfl, callMarker_of_delete hdelete, hbody]
  cases op.hasBody <;> simp

/-- **Calls that delete.**  If the request body of such a call yields a parameter, its
annotation says so exactly if no parameter is a part or a field, that is, if the body is no
form; and under the same condition a plain call has no annotations of a request body. -/
theorem delete_says_body_iff (options : Options) (h : e.analyze schemas = .ok op)
    (hdelete : op.method = .delete) :
    ((op.SendsBody → (functionText options op).SaysBody op.path) ↔
        op.countAt .part = 0 ∧ op.countAt .field = 0) ∧
      ((functionText options op).PlainDeleteIsBare ↔
        op.countAt .part = 0 ∧ op.countAt .field = 0) := by
  have hfits := fitsFlavor_of_analyze h
  obtain ⟨_, hparts, hfields, _⟩ := hfits.alone
  have hbody : (functionText options op).countMarked "Body" = op.countAt .body :=
    countMarked_functionText options op (p := .body) (by decide)
  constructor
  · rw [saysBody_iff options hdelete, sendsBody_iff]
    omega
  · constructor
    · intro hbare
      by_cases hwhole : op.countAt .body = 0
      · have hverb := (verb_mem_markers_iff hdelete).mpr ⟨hwhole, rfl⟩
        obtain ⟨_, hmultipart, hurlEncoded⟩ := hbare _ hverb
        have hnoParts := mt (multipart_mem_markers_iff hfits).mpr hmultipart
        have hnoFields := mt (formUrlEncoded_mem_markers_iff hfits).mpr hurlEncoded
        omega
      · omega
    · intro hnone path hverb
      obtain ⟨hwhole, _⟩ := (verb_mem_markers_iff hdelete).mp hverb
      have hnoParts : ¬0 < op.countAt .part := by omega
      have hnoFields : ¬0 < op.countAt .field := by omega
      exact ⟨hbody.trans hwhole, mt (multipart_mem_markers_iff hfits).mp hnoParts,
        mt (formUrlEncoded_mem_markers_iff hfits).mp hnoFields⟩

/-- An endpoint that deletes and has a whole body. -/
def withdraw : Endpoint := { update with method := .delete }

/-- A call that deletes with a whole body. -/
theorem withdraw_saysBody : ∃ op, withdraw.analyze [] = .ok op ∧ op.method = .delete ∧
    op.SendsBody ∧ (functionText {} op).SaysBody op.path := by
  have hsettled : (withdraw.analyze []).toOption.map (fun op =>
      (op.method, op.countAt .body, op.countAt .part, op.countAt .field)) =
      some (.delete, 1, 0, 0) := by
    decide +kernel
  obtain ⟨op, hop, hcounts⟩ := Option.map_eq_some_iff.mp hsettled
  simp only [Prod.mk.injEq] at hcounts
  obtain ⟨hmethod, hbody, hpart, hfield⟩ := hcounts
  have hok : withdraw.analyze [] = .ok op := toOption_eq_some_iff.mp hop
  have hsends : op.SendsBody := sendsBody_iff.mpr (.inl (by omega))
  exact ⟨op, hok, hmethod, hsends,
    (delete_says_body_iff {} hok hmethod).1.mpr ⟨hpart, hfield⟩ hsends⟩

/-- A call that deletes with a form is written as a plain one that sends a form. -/
theorem not_saysBody_of_photo : ∃ op, (photo .delete).analyze [] = .ok op ∧
    op.method = .delete ∧ op.SendsBody ∧
    ¬(functionText {} op).SaysBody op.path ∧ ¬(functionText {} op).PlainDeleteIsBare := by
  obtain ⟨op, hop, hmethod, hpart, hbody⟩ := exists_analyze_photo .delete
  have hsends : op.SendsBody := sendsBody_iff.mpr (.inr (.inl (by omega)))
  refine ⟨op, hop, hmethod, hsends, ?_, ?_⟩
  · rw [saysBody_iff {} hmethod]
    omega
  · intro hbare
    have hverb := (verb_mem_markers_iff hmethod).mpr ⟨hbody, rfl⟩
    have hmultipart := (multipart_mem_markers_iff (fitsFlavor_of_analyze hop)).mpr
      (by omega : 0 < op.countAt .part)
    exact (hbare _ hverb).2.1 hmultipart

end ClientGen.Kotlin
