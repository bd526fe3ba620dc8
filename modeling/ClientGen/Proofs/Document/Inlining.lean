import ClientGen.Proofs.Document.Course
import ClientGen.Proofs.Document.History
import ClientGen.Proofs.Respelling.Pointwise

/-!
# What inlining leaves as it is

Inlining the references of a document touches the parameters, the request bodies and the
responses under its paths, and there it does no more than put something in the place of
each entry.  An item stays, and a reference becomes the item that its chain ends in.  A
chain can end in nothing, or come to a path that was met before; then a parameter or a
request body stays the reference it is, and a response becomes empty.  All lists keep
their length and order, and all maps their keys.

The steps hand on the paths that count as met.  What carries the argument is that these are
paths met at the start, and paths that are no references into the section that they are
used for.

* `Catalog.Settled`: what may stand in the place of an entry;
* `Document.Inlined`: documents that are the same but for such entries;
* `inlined_inlineDocument`: inlining a document gives such a document.
-/

namespace ClientGen

open List (Forall₂)

/-! ### Documents with other entries in the place of references -/

/-- What stands in the place of an entry, where something else stands for a reference that
is not followed, and chains may be cut off at paths of some kind. -/
inductive Catalog.Settled {α : Type} (t : Catalog α) (kind : String → Prop) (other : OrRef α) :
    OrRef α → OrRef α → Prop
  | item (item : α) : Settled t kind other (.inline item) (.inline item)
  | followed {path : String} {item : α} (hend : t.EndsIn (.ref path) item) :
      Settled t kind other (.ref path) (.inline item)
  | broken {path : String} (hend : ∀ item, ¬t.EndsIn (.ref path) item) :
      Settled t kind other (.ref path) other
  | cut {path stop : String} {paths : List String}
      (hpasses : t.Passes (.ref path) paths (.ref stop)) (hstop : kind stop) :
      Settled t kind other (.ref path) other

section

variable (c : Components) (kind : String → Prop)

/-- What stands in the place of a parameter. -/
def ParameterSettled (p : OrRef Parameter) : OrRef Parameter → Prop :=
  c.parameterCatalog.Settled kind p p

/-- What stands in the place of a request body. -/
def RequestBodySettled (b : OrRef RequestBody) : OrRef RequestBody → Prop :=
  c.requestBodyCatalog.Settled kind b b

/-- What stands in the place of a response. -/
def ResponseSettled : OrRef Response → OrRef Response → Prop :=
  c.responseCatalog.Settled kind (.inline {})

/-- The same operation with its parameters, its body and its responses settled. -/
inductive Operation.Inlined : Operation → Operation → Prop
  | mk (op : Operation) {parameters : List (OrRef Parameter)}
      {requestBody : Option (OrRef RequestBody)} {responses : List (String × OrRef Response)}
      (hparameters : Forall₂ (ParameterSettled c kind) op.parameters parameters)
      (hbody : Option.Rel (RequestBodySettled c kind) op.requestBody requestBody)
      (hresponses : Forall₂ (EntryRel (ResponseSettled c kind)) op.responses responses) :
      Inlined op { op with parameters, requestBody, responses }

/-- The same path with its parameters settled and its operations inlined. -/
inductive PathItem.Inlined : PathItem → PathItem → Prop
  | mk (item : PathItem) {parameters : List (OrRef Parameter)}
      {operations : List (Method × Operation)}
      (hparameters : Forall₂ (ParameterSettled c kind) item.parameters parameters)
      (hoperations : Forall₂ (EntryRel (Operation.Inlined c kind)) item.operations operations) :
      Inlined item { item with parameters, operations }

end

/-- The same document with its paths inlined. -/
inductive Document.Inlined (kind : String → Prop) : Document → Document → Prop
  | mk (d : Document) {paths : List (String × PathItem)}
      (hpaths : Forall₂ (EntryRel (PathItem.Inlined (d.components.getD {}) kind)) d.paths paths) :
      Inlined kind d { d with paths }

/-! ### Steps that settle entries -/

/-- Steps that give results of a sort and leave paths of a kind behind, as long as all paths
that were met are of that kind. -/
def Keeps {β : Type} (kind : String → Prop) (f : List String → Logged (β × List String))
    (sort : β → Prop) : Prop :=
  ∀ met, (∀ path ∈ met, kind path) →
    sort (f met).value.1 ∧ ∀ path ∈ (f met).value.2, kind path

section Keeps

variable {β γ κ : Type} {kind : String → Prop}

/-- A step for each item of a list. -/
theorem Keeps.thread {f : List String → β → Logged (γ × List String)} {sort : β → γ → Prop}
    {items : List β} (h : ∀ b ∈ items, Keeps kind (fun met => f met b) (sort b)) :
    Keeps kind (fun met => Logged.thread f met items) (Forall₂ sort items) := by
  induction items with
  | nil =>
      intro met hmet
      exact ⟨.nil, hmet⟩
  | cons b rest ih =>
      intro met hmet
      obtain ⟨hfirst, hmiddle⟩ := h b List.mem_cons_self met hmet
      have hlater : ∀ a ∈ rest, Keeps kind (fun met => f met a) (sort a) :=
        fun a ha => h a (List.mem_cons_of_mem _ ha)
      obtain ⟨hrest, hafter⟩ := ih hlater _ hmiddle
      exact ⟨.cons hfirst hrest, hafter⟩

/-- A step for each value of a map. -/
theorem Keeps.threadValues {f : List String → κ → β → Logged (γ × List String)}
    {sort : β → γ → Prop} {entries : List (κ × β)}
    (h : ∀ entry ∈ entries, Keeps kind (fun met => f met entry.1 entry.2) (sort entry.2)) :
    Keeps kind (fun met => Logged.threadValues f met entries)
      (Forall₂ (EntryRel sort) entries) := by
  refine Keeps.thread fun entry hentry met hmet => ?_
  obtain ⟨hvalue, hafter⟩ := h entry hentry met hmet
  exact ⟨.mk entry.1 hvalue, hafter⟩

/-- A chain that is followed settles its entry. -/
theorem keeps_of_follow {α : Type} {t : Catalog α} {entry other : OrRef α}
    {f : List String → Logged (OrRef α × List String)}
    (hf : ∀ met, (f met).value = (t.follow met entry).map (inPlace · other) id)
    (hkind : ∀ path, t.Rejects entry path → kind path) :
    Keeps kind f (t.Settled kind other entry) := by
  intro met hmet
  rw [hf]
  constructor
  · cases entry with
    | inline item =>
        rw [Catalog.follow_inline]
        exact .item item
    | ref path =>
        cases hresult : (t.follow met (.ref path)).1 with
        | ok item =>
            rw [Prod.map_fst, hresult]
            exact .followed (Catalog.endsIn_of_follow_eq_ok hresult)
        | error e =>
            rw [Prod.map_fst, hresult]
            by_cases hend : ∃ item, t.EndsIn (.ref path) item
            · obtain ⟨item, hitem⟩ := hend
              obtain ⟨paths, stop, hstop, hpasses⟩ := hitem.exists_met hresult
              exact .cut hpasses (hmet stop hstop)
            · exact .broken (not_exists.mp hend)
  · intro path hpath
    rcases Catalog.mem_or_rejects_of_mem_follow hpath with hold | hnew
    · exact hmet path hold
    · exact hkind path hnew

end Keeps

/-! ### Whole documents -/

/-- The chain of a call comes to a path that is no reference into the section. -/
def Call.Rejects (c : Components) (path : String) : Call → Prop
  | parameter p => c.parameterCatalog.Rejects p path
  | requestBody b => c.requestBodyCatalog.Rejects b path
  | response r => c.responseCatalog.Rejects r path

/-- A chain that starts under the paths of a document does. -/
def Document.Rejects (d : Document) (path : String) : Prop :=
  ∃ x ∈ d.calls, x.Rejects (d.components.getD {}) path

section Whole

variable {c : Components} {kind : String → Prop}

/-- The parameters of a path or an operation are settled. -/
theorem keeps_parameters (place : Place) {parameters : List (OrRef Parameter)}
    (hkind : ∀ p ∈ parameters, ∀ path, (Call.parameter p).Rejects c path → kind path) :
    Keeps kind (fun met => Logged.thread (inlineParameter c place) met parameters)
      (Forall₂ (ParameterSettled c kind) parameters) :=
  Keeps.thread fun p hp => keeps_of_follow (inlineParameter_value place · p) (hkind p hp)

/-- The request body of an operation is settled, if there is one. -/
theorem keeps_requestBody? (place : Place) {b? : Option (OrRef RequestBody)}
    (hkind : ∀ b ∈ b?, ∀ path, (Call.requestBody b).Rejects c path → kind path) :
    Keeps kind (fun met => inlineRequestBody? c place met b?)
      (Option.Rel (RequestBodySettled c kind) b?) := by
  intro met hmet
  cases b? with
  | none => exact ⟨.none, hmet⟩
  | some b =>
      obtain ⟨hbody, hafter⟩ :=
        keeps_of_follow (inlineRequestBody_value place · b) (hkind b rfl) met hmet
      exact ⟨.some hbody, hafter⟩

/-- The responses of an operation are settled. -/
theorem keeps_responses (place : Place) {responses : List (String × OrRef Response)}
    (hkind : ∀ r ∈ responses, ∀ path, (Call.response r.2).Rejects c path → kind path) :
    Keeps kind (fun met => Logged.threadValues (inlineResponse c place) met responses)
      (Forall₂ (EntryRel (ResponseSettled c kind)) responses) :=
  Keeps.threadValues fun r hr =>
    keeps_of_follow (inlineResponse_value place · r.1 r.2) (hkind r hr)

/-- An operation is inlined. -/
theorem keeps_operation (path : String) (method : Method) {op : Operation}
    (hkind : ∀ x ∈ op.calls, ∀ path, x.Rejects c path → kind path) :
    Keeps kind (fun met => inlineOperation c path met method op) (op.Inlined c kind) := by
  intro met hmet
  have hparameter : ∀ p ∈ op.parameters, .parameter p ∈ op.calls := fun p hp =>
    List.mem_append_left _ (List.mem_append_left _ (List.mem_map_of_mem hp))
  have hrequest : ∀ b ∈ op.requestBody, .requestBody b ∈ op.calls := fun b hb =>
    List.mem_append_left _
      (List.mem_append_right _ (List.mem_map_of_mem (Option.mem_toList.mpr hb)))
  have hresponse : ∀ r ∈ op.responses, .response r.2 ∈ op.calls := fun r hr =>
    List.mem_append_right _ (List.mem_map.mpr ⟨r, hr, rfl⟩)
  obtain ⟨hparameters, hfirst⟩ := keeps_parameters ⟨some method, path⟩
    (fun p hp => hkind _ (hparameter p hp)) met hmet
  obtain ⟨hbody, hsecond⟩ := keeps_requestBody? ⟨some method, path⟩
    (fun b hb => hkind _ (hrequest b hb)) _ hfirst
  obtain ⟨hresponses, hthird⟩ := keeps_responses ⟨some method, path⟩
    (fun r hr => hkind _ (hresponse r hr)) _ hsecond
  exact ⟨.mk op hparameters hbody hresponses, hthird⟩

/-- So is a path. -/
theorem keeps_path (path : String) {item : PathItem}
    (hkind : ∀ x ∈ item.calls, ∀ path, x.Rejects c path → kind path) :
    Keeps kind (fun met => inlinePath c met path item) (item.Inlined c kind) := by
  intro met hmet
  have hfront : ∀ p ∈ item.parameters, .parameter p ∈ item.calls :=
    fun p hp => List.mem_append_left _ (List.mem_map_of_mem hp)
  have hback : ∀ entry ∈ item.operations, ∀ x ∈ entry.2.calls, x ∈ item.calls :=
    fun entry hentry x hx =>
      List.mem_append_right _ (List.mem_flatMap.mpr ⟨entry, hentry, hx⟩)
  obtain ⟨hparameters, hfirst⟩ := keeps_parameters ⟨none, path⟩
    (fun p hp => hkind _ (hfront p hp)) met hmet
  have hoperations := Keeps.threadValues (f := inlineOperation c path) fun entry hentry =>
    keeps_operation path entry.1 fun x hx => hkind x (hback entry hentry x hx)
  obtain ⟨hinlined, hsecond⟩ := hoperations _ hfirst
  exact ⟨.mk item hparameters hinlined, hsecond⟩

end Whole

/-- **Inlining.**  The document is the same but for the parameters, the request bodies and
the responses under its paths, and each of them is settled.  This holds whatever was met
before; chains may be cut off at paths that were, and at paths that are no references into
the section that a chain of this document uses them for. -/
theorem inlined_inlineDocument (d : Document) :
    d.Inlined d.Rejects (inlineDocument d).value ∧
      ∀ met, d.Inlined (fun path => path ∈ met ∨ d.Rejects path)
        (inlineDocumentFrom met d).value.1 := by
  have hpaths (kind : String → Prop) (hkind : ∀ path, d.Rejects path → kind path) :
      Keeps kind (fun met => Logged.threadValues (inlinePath (d.components.getD {})) met d.paths)
        (Forall₂ (EntryRel (PathItem.Inlined (d.components.getD {}) kind)) d.paths) :=
    Keeps.threadValues fun entry hentry => keeps_path entry.1 fun x hx path hpath =>
      hkind path ⟨x, List.mem_flatMap.mpr ⟨entry, hentry, hx⟩, hpath⟩
  constructor
  · obtain ⟨hinlined, _⟩ := hpaths d.Rejects (fun _ h => h) [] (by simp)
    exact .mk d hinlined
  · intro met
    obtain ⟨hinlined, _⟩ := hpaths (fun path => path ∈ met ∨ d.Rejects path)
      (fun _ => Or.inr) met (fun _ => Or.inl)
    exact .mk d hinlined

end ClientGen
