import ClientGen.Proofs.Analysis.Run
import ClientGen.Proofs.Respelling.Document
import ClientGen.Proofs.Respelling.Model

/-!
# The analysis of a respelled document

The analysis meets the schemas of a document only through their shapes, their types and
whether they allow null.  So it chooses the same representations, makes the same
parameters and results, needs the same models and fails at the same places, however the
schemas are spelled.

* `Endpoint.Respelled.analyze_eq`: one endpoint;
* `Analyzer.Respelled.complete_eq`: a whole run;
* `exists_analysis_of_respelled`: a document.
-/

namespace ClientGen

open List (Forall₂)

/-! ### Representations -/

/-- The same representation with its schema respelled. -/
inductive Representation.Respelled : Representation → Representation → Prop
  | mk (mime : String) (required : Bool) {schema schema' : Option (OrRef Schema)}
      (h : Option.Rel OrRef.Respelled schema schema') :
      Respelled ⟨mime, required, schema⟩ ⟨mime, required, schema'⟩

/-- The same response with its representation respelled. -/
inductive ChosenResponse.Respelled : ChosenResponse → ChosenResponse → Prop
  | mk (status : StatusCode) (description : Option String) {body body' : Option Representation}
      (h : Option.Rel Representation.Respelled body body') :
      Respelled ⟨status, description, body⟩ ⟨status, description, body'⟩

/-- Of related lists, with the same ranks, related items come first. -/
theorem rel_firstBest? {α β : Type} {R : α → β → Prop} {rank? : α → Option Nat}
    {rank?' : β → Option Nat} (hrank : ∀ a b, R a b → rank? a = rank?' b) {as : List α}
    {bs : List β} (h : Forall₂ R as bs) :
    Option.Rel R (firstBest? rank? as) (firstBest? rank?' bs) := by
  induction h with
  | nil => exact .none
  | @cons a b as bs hab _ ih =>
      rw [firstBest?, firstBest?, ← hrank a b hab]
      generalize firstBest? rank? as = best, firstBest? rank?' bs = best' at ih
      cases rank? a with
      | none => exact ih
      | some r =>
          cases ih with
          | none => exact .some hab
          | some hbest =>
              dsimp only
              rw [← hrank _ _ hbest]
              split
              · exact .some hbest
              · exact .some hab

/-- The representation chosen for a request has the same media type, and its schema is respelled.
-/
theorem rel_requestChoice? {content content' : Content} (h : content.Respelled content') :
    Option.Rel (EntryRel MediaType.Respelled) (requestChoice? content)
      (requestChoice? content') := by
  refine rel_or (rel_firstBest? ?_ h) (rel_head? h)
  rintro _ _ ⟨mime, _⟩
  rfl

/-- A respelled body is chosen in a respelled representation, or in none if it has none. -/
theorem rel_chooseRequest? {b b' : RequestBody} (h : b.Respelled b') :
    Option.Rel Representation.Respelled (chooseRequest? b) (chooseRequest? b') := by
  obtain ⟨hcontent⟩ := h
  refine rel_map? ?_ (rel_requestChoice? hcontent)
  rintro _ _ ⟨mime, ⟨hschema⟩⟩
  exact .mk mime _ hschema

/-- The representation chosen for a response is respelled. -/
theorem rel_responseBody? {content content' : Content} (h : content.Respelled content') :
    Option.Rel Representation.Respelled (responseBody? content) (responseBody? content') := by
  refine rel_map? ?_ (rel_or (rel_find? ?_ h) (rel_head? h))
  · rintro _ _ ⟨mime, ⟨hschema⟩⟩
    exact .mk mime true hschema
  · rintro _ _ ⟨mime, _⟩
    rfl

/-- The same response is chosen, with a respelled representation. -/
theorem rel_chooseResponse? {responses responses' : List (String × OrRef Response)}
    (h : Forall₂ (EntryRel (OrRef.Rel Response.Respelled)) responses responses') :
    Option.Rel ChosenResponse.Respelled (chooseResponse? responses)
      (chooseResponse? responses') := by
  refine rel_bind? ?_ (rel_or (rel_find? ?_ h) (rel_head? h))
  · rintro _ _ ⟨status, hr⟩
    refine rel_bind? ?_ hr.item?
    rintro _ _ ⟨hcontent⟩
    exact .some (.mk _ _ (rel_responseBody? hcontent))
  · rintro _ _ ⟨status, _⟩
    rfl

/-! ### Endpoints -/

namespace Endpoint.Respelled

variable {e e' : Endpoint} {schemas schemas' : Schemas}

theorem parameters (h : e.Respelled e') :
    Forall₂ Parameter.Respelled e.parameters e'.parameters :=
  List.rel_filterMap (fun _ _ hp => hp.item?) h.operation.parameters

theorem requestBody? (h : e.Respelled e') :
    Option.Rel RequestBody.Respelled e.requestBody? e'.requestBody? :=
  rel_bind? (fun _ _ hb => hb.item?) h.operation.requestBody

theorem request? (h : e.Respelled e') :
    Option.Rel Representation.Respelled e.request? e'.request? :=
  rel_bind? (fun _ _ hb => rel_chooseRequest? hb) h.requestBody?

theorem response? (h : e.Respelled e') :
    Option.Rel ChosenResponse.Respelled e.response? e'.response? :=
  rel_chooseResponse? h.operation.responses

/-! ### Parameters -/

/-- A parameter's failure names the operation and not its schemas, so it is the same one. -/
theorem parameterFailure_eq (h : e.Respelled e') (name : String) (cause : ReferenceError) :
    e.parameterFailure name cause = e'.parameterFailure name cause := by
  cases h
  rfl

theorem bodyFailure_eq (h : e.Respelled e') (cause : ReferenceError) :
    e.bodyFailure cause = e'.bodyFailure cause := by
  cases h
  rfl

/-- The same reference is left in place of an item, if any, so the failure is the same. -/
theorem leftReference?_eq (h : e.Respelled e') : e.leftReference? = e'.leftReference? := by
  have hparameter : e.operation.parameters.findSome? OrRef.path? =
      e'.operation.parameters.findSome? OrRef.path? := by
    rw [← List.head?_filterMap, ← List.head?_filterMap,
      filterMap_eq_of_rel (fun _ _ hp => hp.path?) h.operation.parameters]
  have hbody : e.operation.requestBody.bind OrRef.path? =
      e'.operation.requestBody.bind OrRef.path? :=
    bind?_eq_of_rel (fun _ _ hb => hb.path?) h.operation.requestBody
  simp only [leftReference?, hparameter, hbody, h.parameterFailure_eq, h.bodyFailure_eq]

/-- A respelled parameter gives the same pair. -/
theorem parameterPair_eq (h : e.Respelled e') (hschemas : schemas.Respelled schemas')
    {p p' : Parameter} (hp : p.Respelled p') :
    e.parameterPair schemas p = e'.parameterPair schemas' p' := by
  obtain ⟨hschema⟩ := hp
  simp only [parameterPair, hschemas.typeOf?_eq hschema, h.parameterFailure_eq]
  rfl

/-- The declared parameters give the same pairs. -/
theorem declaredPairs_eq (h : e.Respelled e') (hschemas : schemas.Respelled schemas') :
    e.declaredPairs schemas = e'.declaredPairs schemas' := by
  rw [declaredPairs, declaredPairs, h.leftReference?_eq,
    mapM_eq_of_rel (fun _ _ hp => h.parameterPair_eq hschemas hp) h.parameters]

/-- A respelled property of a form gives the same pair. -/
theorem fieldPair_eq (h : e.Respelled e') (hschemas : schemas.Respelled schemas')
    (placement : Placement) {p p' : FlatProperty} (hp : p.Respelled p') :
    e.fieldPair schemas placement p = e'.fieldPair schemas' placement p' := by
  obtain ⟨name, required, hschema⟩ := hp
  simp only [fieldPair, hschemas.typeOf_eq hschema, hschema.description?_eq,
    h.parameterFailure_eq]

/-- A respelled form gives the same pairs, or fails with the same failure. -/
theorem formPairs_eq (h : e.Respelled e') (hschemas : schemas.Respelled schemas')
    (placement : Placement) {s? s'? : Option (OrRef Schema)}
    (hs : Option.Rel OrRef.Respelled s? s'?) :
    e.formPairs schemas placement s? = e'.formPairs schemas' placement s'? := by
  cases hs with
  | none => rfl
  | @some s s' hs =>
      have hflat := hschemas.flatten hs
      rw [formPairs, formPairs]
      generalize schemas.flatten s = flat, schemas'.flatten s' = flat' at hflat
      cases hflat with
      | error cause => exact congrArg Except.error (h.bodyFailure_eq cause)
      | ok hflat =>
          exact mapM_eq_of_rel (fun _ _ hp => h.fieldPair_eq hschemas placement hp) hflat

/-- The chosen representation of the body gives the same pairs. -/
theorem bodyPairs_eq (h : e.Respelled e') (hschemas : schemas.Respelled schemas')
    {r r' : Representation} (hr : r.Respelled r') :
    e.bodyPairs schemas r = e'.bodyPairs schemas' r' := by
  have hdescription : e.requestBody?.bind RequestBody.description =
      e'.requestBody?.bind RequestBody.description :=
    bind?_eq_of_rel (fun _ _ hb => by cases hb; rfl) h.requestBody?
  obtain ⟨mime, required, hschema⟩ := hr
  simp only [bodyPairs, Representation.kind, hschemas.typeOf?_eq hschema, hdescription,
    h.bodyFailure_eq, h.formPairs_eq hschemas _ hschema]

/-- The body gives the same pairs, also where there is none. -/
theorem requestPairs_eq (h : e.Respelled e') (hschemas : schemas.Respelled schemas') :
    e.requestPairs schemas = e'.requestPairs schemas' := by
  have hrequest := h.request?
  unfold requestPairs
  generalize e.request? = r, e'.request? = r' at hrequest
  cases hrequest with
  | none => rfl
  | some hr => exact h.bodyPairs_eq hschemas hr

/-- So the operation has the same parameters, or the same failure. -/
theorem pairs_eq (h : e.Respelled e') (hschemas : schemas.Respelled schemas') :
    e.pairs schemas = e'.pairs schemas' := by
  rw [pairs, pairs, h.declaredPairs_eq hschemas, h.requestPairs_eq hschemas]

theorem flavor?_eq (h : e.Respelled e') : e.flavor? = e'.flavor? :=
  map?_eq_of_rel (fun _ _ ⟨_, _, _⟩ => rfl) h.request?

/-! ### Results -/

/-- The type that the operation returns is the same. -/
theorem returns_eq (h : e.Respelled e') (hschemas : schemas.Respelled schemas') :
    e.returns schemas = e'.returns schemas' := by
  have hbody : Option.Rel Representation.Respelled (e.response?.bind (·.body))
      (e'.response?.bind (·.body)) :=
    rel_bind? (fun _ _ ⟨_, _, hbody⟩ => hbody) h.response?
  unfold returns
  generalize e.response?.bind (·.body) = body, e'.response?.bind (·.body) = body' at hbody
  cases hbody with
  | none => rfl
  | some hr =>
      obtain ⟨mime, required, hschema⟩ := hr
      simp only [hschemas.typeOf?_eq hschema]
      rfl

theorem responseDescription_eq (h : e.Respelled e') :
    e.response?.bind (·.description) = e'.response?.bind (·.description) :=
  bind?_eq_of_rel (fun _ _ ⟨_, _, _⟩ => rfl) h.response?

/-! ### Models an endpoint depends on -/

/-- The schemas that a chosen body mentions are respelled one by one. -/
theorem requestSchemas (hschemas : schemas.Respelled schemas') {r r' : Representation}
    (hr : r.Respelled r') :
    Forall₂ OrRef.Respelled (requestSchemas schemas r) (requestSchemas schemas' r') := by
  obtain ⟨mime, required, hschema⟩ := hr
  cases hschema with
  | none => exact .nil
  | @some s s' hs =>
      have hwhole : Forall₂ OrRef.Respelled [s] [s'] := .cons hs .nil
      have hflat := hschemas.flatten hs
      simp only [Endpoint.requestSchemas, Representation.kind]
      generalize schemas.flatten s = flat, schemas'.flatten s' = flat' at hflat
      cases (MediaKind.ofMime mime).flavor with
      | whole => exact hwhole
      | unsupported => exact hwhole
      | multipart | urlEncoded =>
          cases hflat with
          | error cause => exact hwhole
          | ok hflat => exact List.rel_map (fun _ _ ⟨_, _, hschema⟩ => hschema) hflat

/-- So are those of the JSON representations of a response. -/
theorem responseSchemas {r r' : Response} (hr : r.Respelled r') :
    Forall₂ OrRef.Respelled (responseSchemas r) (responseSchemas r') := by
  obtain ⟨hcontent⟩ := hr
  have hjson : Content.Respelled (r.content.filter isJsonEntry) (List.filter isJsonEntry _) :=
    List.rel_filter (by rintro _ _ ⟨mime, _⟩; rfl) hcontent
  exact List.rel_filterMap (fun _ _ ⟨_, ⟨hschema⟩⟩ => hschema) hjson

/-- All schemas that an endpoint mentions are respelled, in the same order. -/
theorem schemasOf (h : e.Respelled e') (hschemas : schemas.Respelled schemas') :
    Forall₂ OrRef.Respelled (e.schemasOf schemas) (e'.schemasOf schemas') := by
  have hrequest : Forall₂ OrRef.Respelled
      ((e.request?.map (Endpoint.requestSchemas schemas)).getD [])
      ((e'.request?.map (Endpoint.requestSchemas schemas')).getD []) := by
    have hr := h.request?
    generalize e.request? = r, e'.request? = r' at hr
    cases hr with
    | none => exact .nil
    | some hr =>
        rw [Option.map_some, Option.map_some, Option.getD_some, Option.getD_some]
        exact requestSchemas hschemas hr
  have hparameters : Forall₂ OrRef.Respelled (e.parameters.filterMap (·.schema))
      (e'.parameters.filterMap (·.schema)) := by
    refine List.rel_filterMap ?_ h.parameters
    rintro _ _ ⟨hschema⟩
    exact hschema
  have hresponses : Forall₂ Response.Respelled
      (e.operation.responses.filterMap fun entry => entry.2.item?)
      (e'.operation.responses.filterMap fun entry => entry.2.item?) := by
    refine List.rel_filterMap ?_ h.operation.responses
    rintro _ _ ⟨status, hr⟩
    exact hr.item?
  rw [Endpoint.schemasOf, Endpoint.schemasOf]
  refine List.rel_append (List.rel_append hrequest hparameters) ?_
  exact List.rel_flatMap hresponses fun _ _ hr => responseSchemas hr

/-- The keys that an endpoint leads to are the same ones. -/
theorem discover_eq (h : e.Respelled e') (hschemas : schemas.Respelled schemas') :
    e.discover schemas = e'.discover schemas' := by
  rw [discover, discover, hschemas.seeds_eq (h.schemasOf hschemas), hschemas.reach_eq]

/-- **Endpoints.**  An endpoint becomes the same operation, or fails with the same
failure. -/
theorem analyze_eq (h : e.Respelled e') (hschemas : schemas.Respelled schemas') :
    e.analyze schemas = e'.analyze schemas' := by
  simp only [analyze, h.pairs_eq hschemas, h.flavor?_eq, h.returns_eq hschemas,
    h.responseDescription_eq, h.discover_eq hschemas]
  cases h with
  | mk hoperation =>
      cases hoperation
      rfl

end Endpoint.Respelled

/-! ### Runs -/

/-- Analyzers of respelled documents. -/
structure Analyzer.Respelled (a a' : Analyzer) : Prop where
  schemas : Schemas.Respelled a.schemas a'.schemas
  endpoints : Forall₂ Endpoint.Respelled a.endpoints a'.endpoints
  groups : a.groups = a'.groups
  allow : a.allow = a'.allow

namespace Analyzer.Respelled

variable {a a' : Analyzer}

/-- An index leads to a respelled endpoint, or beyond both lists. -/
theorem endpointAt (h : a.Respelled a') (i : Nat) :
    Option.Rel Endpoint.Respelled a.endpoints[i]? a'.endpoints[i]? :=
  rel_getElem? h.endpoints i

/-- The operation at an index is the same. -/
theorem operationAt?_eq (h : a.Respelled a') (i : Nat) : a.operationAt? i = a'.operationAt? i :=
  bind?_eq_of_rel (fun _ _ he => congrArg Except.toOption (he.analyze_eq h.schemas))
    (h.endpointAt i)

/-- So is its failure, where it has one. -/
theorem failureAt?_eq (h : a.Respelled a') (i : Nat) : a.failureAt? i = a'.failureAt? i :=
  bind?_eq_of_rel (fun _ _ he => congrArg error? (he.analyze_eq h.schemas)) (h.endpointAt i)

/-- The model or the failure of a key is the same. -/
theorem model_eq (h : a.Respelled a') (key : String) : a.model key = a'.model key :=
  h.schemas.model_eq key

theorem members (h : a.Respelled a') (g : Group) :
    Forall₂ Endpoint.Respelled (a.members g) (a'.members g) := by
  have hpositions : Forall₂ Eq g.members g.members := List.forall₂_same.mpr fun _ _ => rfl
  refine List.rel_filterMap ?_ hpositions
  rintro i _ rfl
  exact h.endpointAt i

/-- The groups that are analyzed reach the same keys. -/
theorem reached_eq (h : a.Respelled a') : a.reached = a'.reached := by
  have hgroups : Forall₂ Eq a.groups a'.groups := by rw [h.groups, List.forall₂_eq_eq_eq]
  have hmembers : Forall₂ Endpoint.Respelled (a.groups.flatMap a.members)
      (a'.groups.flatMap a'.members) := by
    refine List.rel_flatMap hgroups ?_
    rintro g _ rfl
    exact h.members g
  refine List.rel_foldl ?_ (Eq.refl ∅) hmembers
  rintro found _ rfl e e' he
  exact congrArg found.union (he.discover_eq h.schemas)

/-- Models are built for the same keys, in the same order. -/
theorem modelKeys_eq (h : a.Respelled a') : a.modelKeys = a'.modelKeys := by
  have hkeys : a.schemas.map (·.1) = a'.schemas.map (·.1) :=
    map_eq_of_rel (fun _ _ ⟨_, _⟩ => rfl) h.schemas
  simp only [modelKeys, hkeys, h.allow, h.reached_eq]

/-- **Runs.**  All operations, models and failures are the same. -/
theorem complete_eq (h : a.Respelled a') : a.complete = a'.complete := by
  have hoperation : a.operationAt? = a'.operationAt? := funext h.operationAt?_eq
  have hfailure : a.failureAt? = a'.failureAt? := funext h.failureAt?_eq
  have hmodel : a.model = a'.model := funext h.model_eq
  simp only [complete, modelsOf, failuresOf, failuresAt, hoperation, hfailure, hmodel,
    h.modelKeys_eq, h.groups]

end Analyzer.Respelled

/-- The analyzers of a document and of the same document respelled. -/
theorem Document.Respelled.analyzer {d d' : Document} (h : d.Respelled d')
    (allow : List String) :
    (Analyzer.ofDocument d allow).value.Respelled (Analyzer.ofDocument d' allow).value where
  schemas := h.inlined.schemas
  endpoints := h.inlined.endpoints
  groups := groupByTag_eq h.inlined.endpoints allow
  allow := rfl

/-- **Nullability.**  However the schemas of a document say that they allow null, the
analysis gives the same interfaces, models and failures. -/
theorem exists_analysis_of_respelled {d d' : Document} (h : d.Respelled d')
    (allow : List String) :
    ∃ result : Analysis,
      ((Analyzer.ofDocument d allow).value.analyze false).value = .ok result ∧
      ((Analyzer.ofDocument d' allow).value.analyze false).value = .ok result := by
  refine ⟨(Analyzer.ofDocument d allow).value.complete, Analyzer.analyze_false_value _, ?_⟩
  rw [Analyzer.analyze_false_value, (h.analyzer allow).complete_eq]

/-- A parameter and a property that allow null in either way. -/
theorem exists_analysis_of_nullable_pets :
    let document : Schema → Schema → Document := fun limit name =>
      { version := "3.1.0"
        info := ⟨"Pets", none, "1"⟩
        paths := [("/pets", { operations := [(.get, { parameters := [.inline
          { name := "limit", location := .query, schema := some (.inline limit) }] })] })]
        components := some { schemas := [("Pet", .inline
          { type := some (.single .object), properties := [("name", .inline name)] })] } }
    let d := document { type := some (.single .integer), nullable := some true }
      { type := some (.single .string), nullable := some true }
    let d' := document { type := some (.several [.null, .integer]) }
      { type := some (.several [.string, .null]) }
    d.Respelled d' ∧ d ≠ d' ∧ ∃ result : Analysis,
      ((Analyzer.ofDocument d ["default"]).value.analyze false).value = .ok result ∧
      ((Analyzer.ofDocument d' ["default"]).value.analyze false).value = .ok result := by
  intro document d d'
  have hlimit : Schema.Respelled { type := some (.single .integer), nullable := some true }
      { type := some (.several [.null, .integer]) } :=
    .mk (.nullFirst .integer) .nil .none .none .nil .nil .nil rfl rfl rfl rfl rfl rfl
  have hname : Schema.Respelled { type := some (.single .string), nullable := some true }
      { type := some (.several [.string, .null]) } :=
    .mk (.nullLast .string) .nil .none .none .nil .nil .nil rfl rfl rfl rfl rfl rfl
  have hdocument : d.Respelled d' := by
    refine .mk d (.cons (.mk _ (.mk _ .nil (.cons (.mk _ (.mk _ ?_ .none .nil)) .nil))) .nil)
      (.some (.mk _ ?_ .nil .nil .nil))
    · exact .cons (.inline (.mk _ (.some (.inline hlimit)))) .nil
    · refine .cons (.mk _ (.inline ?_)) .nil
      exact .mk (.same _ _) (.cons (.mk _ (.inline hname)) .nil) .none .none .nil .nil .nil
        rfl rfl rfl rfl rfl rfl
  have hne : d ≠ d' := by
    intro h
    simp [d, d', document] at h
  exact ⟨hdocument, hne, exists_analysis_of_respelled hdocument ["default"]⟩

end ClientGen
