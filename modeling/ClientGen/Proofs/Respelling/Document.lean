import ClientGen.Endpoint.Group
import ClientGen.Proofs.Document.History
import ClientGen.Proofs.Respelling.Schema

/-!
# Documents with respelled schemas

A document is respelled if any number of the schemas in its components, its parameters
and the representations of its bodies and responses are.  Its references are then
followed to the same ends, and its endpoints have the same names and tags.

* `Document.Respelled`: the relation;
* `Catalog.Respelled.follow`: one chain of references;
* `Document.Respelled.inlined`: all references under the paths;
* `Document.Respelled.endpoints`, `groupByTag_eq`: the endpoints and their groups.
-/

namespace ClientGen

open List (Forall₂)

/-! ### Documents -/

/-- The same parameter with its schema respelled. -/
inductive Parameter.Respelled : Parameter → Parameter → Prop
  | mk (p : Parameter) {schema : Option (OrRef Schema)}
      (h : Option.Rel OrRef.Respelled p.schema schema) : Respelled p { p with schema }

/-- The same representation with its schema respelled. -/
inductive MediaType.Respelled : MediaType → MediaType → Prop
  | mk {schema schema' : Option (OrRef Schema)} (h : Option.Rel OrRef.Respelled schema schema') :
      Respelled ⟨schema⟩ ⟨schema'⟩

/-- The same media types with their representations respelled. -/
abbrev Content.Respelled : Content → Content → Prop := Forall₂ (EntryRel MediaType.Respelled)

/-- The same body with its representations respelled. -/
inductive RequestBody.Respelled : RequestBody → RequestBody → Prop
  | mk (b : RequestBody) {content : Content} (h : b.content.Respelled content) :
      Respelled b { b with content }

/-- The same response with its representations respelled. -/
inductive Response.Respelled : Response → Response → Prop
  | mk (r : Response) {content : Content} (h : r.content.Respelled content) :
      Respelled r { r with content }

/-- The same operation with its parameters, its body and its responses respelled. -/
inductive Operation.Respelled : Operation → Operation → Prop
  | mk (op : Operation) {parameters : List (OrRef Parameter)}
      {requestBody : Option (OrRef RequestBody)} {responses : List (String × OrRef Response)}
      (hparameters : Forall₂ (OrRef.Rel Parameter.Respelled) op.parameters parameters)
      (hbody : Option.Rel (OrRef.Rel RequestBody.Respelled) op.requestBody requestBody)
      (hresponses : Forall₂ (EntryRel (OrRef.Rel Response.Respelled)) op.responses responses) :
      Respelled op { op with parameters, requestBody, responses }

/-- The same path with its parameters and its operations respelled. -/
inductive PathItem.Respelled : PathItem → PathItem → Prop
  | mk (item : PathItem) {parameters : List (OrRef Parameter)}
      {operations : List (Method × Operation)}
      (hparameters : Forall₂ (OrRef.Rel Parameter.Respelled) item.parameters parameters)
      (hoperations : Forall₂ (EntryRel Operation.Respelled) item.operations operations) :
      Respelled item { item with parameters, operations }

/-- The same components under the same names, respelled. -/
inductive Components.Respelled : Components → Components → Prop
  | mk (c : Components) {schemas : Schemas} {responses : List (String × OrRef Response)}
      {parameters : List (String × OrRef Parameter)}
      {requestBodies : List (String × OrRef RequestBody)}
      (hschemas : Schemas.Respelled c.schemas schemas)
      (hresponses : Forall₂ (EntryRel (OrRef.Rel Response.Respelled)) c.responses responses)
      (hparameters : Forall₂ (EntryRel (OrRef.Rel Parameter.Respelled)) c.parameters parameters)
      (hbodies :
        Forall₂ (EntryRel (OrRef.Rel RequestBody.Respelled)) c.requestBodies requestBodies) :
      Respelled c { c with schemas, responses, parameters, requestBodies }

/-- The same document, any number of whose schemas are respelled. -/
inductive Document.Respelled : Document → Document → Prop
  | mk (d : Document) {paths : List (String × PathItem)} {components : Option Components}
      (hpaths : Forall₂ (EntryRel PathItem.Respelled) d.paths paths)
      (hcomponents : Option.Rel Components.Respelled d.components components) :
      Respelled d { d with paths, components }

namespace Operation.Respelled

variable {op op' : Operation}

theorem parameters (h : op.Respelled op') :
    Forall₂ (OrRef.Rel Parameter.Respelled) op.parameters op'.parameters := by
  cases h; assumption

theorem requestBody (h : op.Respelled op') :
    Option.Rel (OrRef.Rel RequestBody.Respelled) op.requestBody op'.requestBody := by
  cases h; assumption

theorem responses (h : op.Respelled op') :
    Forall₂ (EntryRel (OrRef.Rel Response.Respelled)) op.responses op'.responses := by
  cases h; assumption

end Operation.Respelled

/-- No components are a respelling of none. -/
theorem Components.respelled_empty : Components.Respelled {} {} :=
  .mk {} .nil .nil .nil .nil

theorem Response.respelled_empty : Response.Respelled {} {} :=
  .mk {} .nil

/-- Where the components are missing, nothing is declared on either side. -/
theorem Components.Respelled.getD {c? c'? : Option Components}
    (h : Option.Rel Components.Respelled c? c'?) :
    (c?.getD {}).Respelled (c'?.getD {}) := by
  cases h with
  | none => exact Components.respelled_empty
  | some h => exact h

theorem Components.Respelled.schemas {c c' : Components} (h : c.Respelled c') :
    Schemas.Respelled c.schemas c'.schemas := by
  obtain ⟨hschemas, _, _, _⟩ := h
  exact hschemas

/-- The schemas of a respelled document are respelled. -/
theorem Document.Respelled.schemas {d d' : Document} (h : d.Respelled d') :
    Schemas.Respelled d.schemas d'.schemas := by
  obtain ⟨_, hcomponents⟩ := h
  exact (Components.Respelled.getD hcomponents).schemas

/-! ### Steps that leave paths behind -/

/-- Related results with the same paths behind them. -/
inductive AfterRel {α β : Type} (R : α → β → Prop) : α × List String → β × List String → Prop
  | mk {a : α} {b : β} (h : R a b) (met : List String) : AfterRel R (a, met) (b, met)

section

variable {α β γ δ κ : Type} {R : α → β → Prop} {S : γ → δ → Prop}

theorem AfterRel.fst {u : α × List String} {v : β × List String} (h : AfterRel R u v) :
    R u.1 v.1 := by
  obtain ⟨hab, _⟩ := h
  exact hab

/-- Two steps in sequence keep the results related and the paths behind them equal, if each step
does. -/
theorem AfterRel.bind {x : Logged (α × List String)} {y : Logged (β × List String)}
    {f : α × List String → Logged (γ × List String)}
    {g : β × List String → Logged (δ × List String)} (hxy : AfterRel R x.value y.value)
    (hfg : ∀ a b met, R a b → AfterRel S (f (a, met)).value (g (b, met)).value) :
    AfterRel S (x >>= f).value (y >>= g).value := by
  rw [Logged.value_bind, Logged.value_bind]
  generalize x.value = u, y.value = v at hxy
  obtain ⟨hab, met⟩ := hxy
  exact hfg _ _ met hab

/-- So does a step taken for each item of a list, from the first item to the last. -/
theorem AfterRel.thread {f : List String → α → Logged (γ × List String)}
    {g : List String → β → Logged (δ × List String)}
    (hfg : ∀ met a b, R a b → AfterRel S (f met a).value (g met b).value) {as : List α}
    {bs : List β} (h : Forall₂ R as bs) (met : List String) :
    AfterRel (Forall₂ S) (Logged.thread f met as).value (Logged.thread g met bs).value := by
  induction h generalizing met with
  | nil => exact .mk .nil met
  | cons hab _ ih =>
      rw [Logged.thread, Logged.thread]
      refine AfterRel.bind (hfg met _ _ hab) fun c d met hcd => ?_
      exact AfterRel.bind (ih met) fun _ _ met hrest => .mk (.cons hcd hrest) met

/-- So does a step taken for the values of a list of entries, whose names it keeps. -/
theorem AfterRel.threadValues {f : List String → κ → α → Logged (γ × List String)}
    {g : List String → κ → β → Logged (δ × List String)}
    (hfg : ∀ met k a b, R a b → AfterRel S (f met k a).value (g met k b).value)
    {as : List (κ × α)} {bs : List (κ × β)} (h : Forall₂ (EntryRel R) as bs) (met : List String) :
    AfterRel (Forall₂ (EntryRel S)) (Logged.threadValues f met as).value
      (Logged.threadValues g met bs).value := by
  refine AfterRel.thread ?_ h met
  rintro met _ _ ⟨k, hab⟩
  exact AfterRel.bind (hfg met k _ _ hab) fun _ _ met hcd => .mk (.mk k hcd) met

end

/-! ### References -/

/-- The same names in the same section, for items that are related. -/
structure Catalog.Rel {α : Type} (R : α → α → Prop) (t t' : Catalog α) : Prop where
  part : t.part = t'.part
  entries : Forall₂ (EntryRel (OrRef.Rel R)) t.entries t'.entries

section

variable {α : Type} {R : α → α → Prop} {t t' : Catalog α}

/-- **One chain.**  It ends in related items, or in the same failure. -/
theorem Catalog.Rel.follow (h : Catalog.Rel R t t') (met : List String) {x x' : OrRef α}
    (hx : OrRef.Rel R x x') :
    AfterRel (OutcomeRel R) (t.follow met x) (t'.follow met x') := by
  -- The trail goes where the chain does, so its cases are those of the chain.
  fun_induction Catalog.trail t met x generalizing x' with
  | case1 met item =>
      obtain ⟨⟩ | ⟨hitem⟩ := hx
      rw [follow_inline, follow_inline]
      exact .mk (.ok hitem) met
  | case2 met path hpath =>
      cases hx
      rw [follow_of_mem hpath, follow_of_mem hpath]
      exact .mk (.error _) met
  | case3 met path hpath fault hname =>
      cases hx
      rw [follow_of_invalid hpath hname, follow_of_invalid hpath (h.part ▸ hname)]
      exact .mk (.error _) _
  | case4 met path hpath name hname htarget =>
      cases hx
      have htarget' := eq_none_of_rel (htarget ▸ rel_lookup name h.entries)
      rw [follow_of_missing hpath hname htarget,
        follow_of_missing hpath (h.part ▸ hname) htarget']
      exact .mk (.error _) met
  | case5 met path hpath name hname target htarget ih =>
      cases hx
      obtain ⟨target', htarget', hrel⟩ := exists_of_rel (htarget ▸ rel_lookup name h.entries)
      have hrest := ih hrel
      rw [follow_of_target hpath hname htarget,
        follow_of_target hpath (h.part ▸ hname) htarget']
      generalize t.follow (path :: met) target = rest,
        t'.follow (path :: met) target' = rest' at hrest
      obtain ⟨hend, met'⟩ := hrest
      exact .mk hend (met'.erase path)

/-- An item found on both sides replaces related references with related items. -/
theorem OrRef.Rel.inPlace {result result' : Except ReferenceError α} {other other' : OrRef α}
    (hresult : OutcomeRel R result result') (hother : OrRef.Rel R other other') :
    OrRef.Rel R (inPlace result other) (inPlace result' other') := by
  cases hresult with
  | error e => exact hother
  | ok h => exact .inline h

/-- The item that a chain ends in, in place of the reference. -/
theorem Catalog.Rel.inPlace (h : Catalog.Rel R t t') (met : List String)
    {x x' other other' : OrRef α} (hx : OrRef.Rel R x x') (hother : OrRef.Rel R other other') :
    AfterRel (OrRef.Rel R) ((t.follow met x).map (inPlace · other) id)
      ((t'.follow met x').map (inPlace · other') id) := by
  have hfollow := h.follow met hx
  generalize t.follow met x = u, t'.follow met x' = v at hfollow
  obtain ⟨hend, met'⟩ := hfollow
  exact .mk (OrRef.Rel.inPlace hend hother) met'

end

section

variable {c c' : Components}

/-- The declared parameters are a respelled catalog. -/
theorem Components.Respelled.parameterCatalog (h : c.Respelled c') :
    Catalog.Rel Parameter.Respelled c.parameterCatalog c'.parameterCatalog := by
  obtain ⟨_, _, hparameters, _⟩ := h
  exact ⟨rfl, hparameters⟩

theorem Components.Respelled.requestBodyCatalog (h : c.Respelled c') :
    Catalog.Rel RequestBody.Respelled c.requestBodyCatalog c'.requestBodyCatalog := by
  obtain ⟨_, _, _, hbodies⟩ := h
  exact ⟨rfl, hbodies⟩

theorem Components.Respelled.responseCatalog (h : c.Respelled c') :
    Catalog.Rel Response.Respelled c.responseCatalog c'.responseCatalog := by
  obtain ⟨_, hresponses, _, _⟩ := h
  exact ⟨rfl, hresponses⟩

/-- A parameter's reference is replaced on both sides, by respelled parameters. -/
theorem Components.Respelled.inlineParameter (h : c.Respelled c') (place : Place)
    (met : List String) {p p' : OrRef Parameter} (hp : OrRef.Rel Parameter.Respelled p p') :
    AfterRel (OrRef.Rel Parameter.Respelled) (inlineParameter c place met p).value
      (inlineParameter c' place met p').value := by
  rw [inlineParameter_value, inlineParameter_value]
  exact h.parameterCatalog.inPlace met hp hp

/-- The reference of a body is replaced on both sides, where there is a body. -/
theorem Components.Respelled.inlineRequestBody? (h : c.Respelled c') (place : Place)
    (met : List String) {b b' : Option (OrRef RequestBody)}
    (hb : Option.Rel (OrRef.Rel RequestBody.Respelled) b b') :
    AfterRel (Option.Rel (OrRef.Rel RequestBody.Respelled))
      (inlineRequestBody? c place met b).value (inlineRequestBody? c' place met b').value := by
  cases hb with
  | none => exact .mk .none met
  | @some b b' hb =>
      have hfirst : AfterRel (OrRef.Rel RequestBody.Respelled)
          (inlineRequestBody c place met b).value (inlineRequestBody c' place met b').value := by
        rw [inlineRequestBody_value, inlineRequestBody_value]
        exact h.requestBodyCatalog.inPlace met hb hb
      exact hfirst.bind fun _ _ met hb => .mk (.some hb) met

/-- The reference of a response is replaced on both sides; if it leads nowhere, both responses are
empty. -/
theorem Components.Respelled.inlineResponse (h : c.Respelled c') (place : Place)
    (met : List String) (status : String) {r r' : OrRef Response}
    (hr : OrRef.Rel Response.Respelled r r') :
    AfterRel (OrRef.Rel Response.Respelled) (inlineResponse c place met status r).value
      (inlineResponse c' place met status r').value := by
  rw [inlineResponse_value, inlineResponse_value]
  exact h.responseCatalog.inPlace met hr (.inline Response.respelled_empty)

/-- The references of an operation are replaced on both sides, in the same order. -/
theorem Components.Respelled.inlineOperation (h : c.Respelled c') (path : String)
    (met : List String) (method : Method) {op op' : Operation} (hop : op.Respelled op') :
    AfterRel Operation.Respelled (inlineOperation c path met method op).value
      (inlineOperation c' path met method op').value := by
  obtain ⟨hparameters, hbody, hresponses⟩ := hop
  refine AfterRel.bind (AfterRel.thread (h.inlineParameter _) hparameters met) ?_
  intro _ _ met hparameters
  refine AfterRel.bind (h.inlineRequestBody? _ met hbody) ?_
  intro _ _ met hbody
  refine AfterRel.bind (AfterRel.threadValues (h.inlineResponse _) hresponses met) ?_
  intro _ _ met hresponses
  exact .mk (.mk _ hparameters hbody hresponses) met

/-- The references of a path are replaced on both sides, those of its parameters first. -/
theorem Components.Respelled.inlinePath (h : c.Respelled c') (met : List String) (path : String)
    {item item' : PathItem} (hitem : item.Respelled item') :
    AfterRel PathItem.Respelled (inlinePath c met path item).value
      (inlinePath c' met path item').value := by
  obtain ⟨hparameters, hoperations⟩ := hitem
  refine AfterRel.bind (AfterRel.thread (h.inlineParameter _) hparameters met) ?_
  intro _ _ met hparameters
  refine AfterRel.bind (AfterRel.threadValues (h.inlineOperation path) hoperations met) ?_
  intro _ _ met hoperations
  exact .mk (.mk _ hparameters hoperations) met

end

/-- All paths of a document are gone through in step, whatever has been met before. -/
theorem Document.Respelled.inlinedFrom {d d' : Document} (h : d.Respelled d')
    (met : List String) :
    AfterRel Document.Respelled (inlineDocumentFrom met d).value
      (inlineDocumentFrom met d').value := by
  obtain ⟨hpaths, hcomponents⟩ := h
  have hc := Components.Respelled.getD hcomponents
  refine AfterRel.bind (AfterRel.threadValues hc.inlinePath hpaths met) ?_
  intro _ _ met hpaths
  exact .mk (.mk _ hpaths hcomponents) met

/-- **All references.**  They are followed to the same ends, respelled. -/
theorem Document.Respelled.inlined {d d' : Document} (h : d.Respelled d') :
    (inlineDocument d).value.Respelled (inlineDocument d').value :=
  (h.inlinedFrom []).fst

/-! ### Endpoints -/

/-- The same endpoint with its operation respelled. -/
inductive Endpoint.Respelled : Endpoint → Endpoint → Prop
  | mk (e : Endpoint) {operation : Operation} (h : e.operation.Respelled operation) :
      Respelled e { e with operation }

theorem Endpoint.Respelled.operation {e e' : Endpoint} (h : e.Respelled e') :
    e.operation.Respelled e'.operation := by
  cases h; assumption

section

variable {merged merged' own own' : List (OrRef Parameter)} {p p' : Parameter}

/-- A respelling keeps the name and the location that parameters are compared by. -/
theorem hasSlot_eq (hp : p.Respelled p') {q q' : OrRef Parameter}
    (hq : OrRef.Rel Parameter.Respelled q q') : hasSlot p q = hasSlot p' q' := by
  obtain ⟨_⟩ := hp
  cases hq with
  | ref path => rfl
  | inline hq =>
      obtain ⟨_⟩ := hq
      rfl

/-- A parameter takes the place of the same ones. -/
theorem rel_replaceSlot (hp : p.Respelled p')
    (h : Forall₂ (OrRef.Rel Parameter.Respelled) merged merged') :
    Forall₂ (OrRef.Rel Parameter.Respelled) (replaceSlot p merged) (replaceSlot p' merged') := by
  induction h with
  | nil => exact .cons (.inline hp) .nil
  | cons hq hrest ih =>
      rw [replaceSlot, replaceSlot, ← hasSlot_eq hp hq]
      split
      · exact .cons (.inline hp) hrest
      · exact .cons hq ih

/-- The parameters of an operation are merged into those of its path in the same way. -/
theorem rel_mergeParameters (hmerged : Forall₂ (OrRef.Rel Parameter.Respelled) merged merged')
    (hown : Forall₂ (OrRef.Rel Parameter.Respelled) own own') :
    Forall₂ (OrRef.Rel Parameter.Respelled) (mergeParameters merged own)
      (mergeParameters merged' own') := by
  refine List.rel_foldl ?_ hmerged hown
  rintro merged merged' hmerged _ _ (⟨path⟩ | ⟨hp⟩)
  · exact List.rel_append hmerged (.cons (.ref path) .nil)
  · exact rel_replaceSlot hp hmerged

end

/-- The endpoints of a respelled document are respelled. -/
theorem Document.Respelled.endpoints {d d' : Document} (h : d.Respelled d') :
    Forall₂ Endpoint.Respelled (Endpoint.ofDocument d) (Endpoint.ofDocument d') := by
  obtain ⟨hpaths, _⟩ := h
  refine List.rel_flatMap hpaths ?_
  rintro _ _ ⟨path, ⟨hparameters, hoperations⟩⟩
  refine List.rel_map ?_ hoperations
  rintro _ _ ⟨method, ⟨hown, hbody, hresponses⟩⟩
  exact .mk _ (.mk _ (rel_mergeParameters hparameters hown) hbody hresponses)

/-- Tags are not respelled, so the endpoints fall into the same groups. -/
theorem groupFrom_eq {endpoints endpoints' : List Endpoint}
    (h : Forall₂ Endpoint.Respelled endpoints endpoints') (i : Nat)
    (groups : List (String × List Nat)) :
    groupFrom i groups endpoints = groupFrom i groups endpoints' := by
  induction h generalizing i groups with
  | nil => rfl
  | cons he _ ih =>
      obtain ⟨_⟩ := he
      rw [groupFrom, groupFrom, ih]
      rfl

/-- Respelled endpoints are grouped the same way. -/
theorem groupByTag_eq {endpoints endpoints' : List Endpoint}
    (h : Forall₂ Endpoint.Respelled endpoints endpoints') (allow : List String) :
    groupByTag endpoints allow = groupByTag endpoints' allow := by
  rw [groupByTag, groupByTag, groupFrom_eq h]

end ClientGen
