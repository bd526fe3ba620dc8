import ClientGen.Proofs.Document.Chain

/-!
# Many references, one after another

All references of a document are followed by one resolver, which remembers the paths
that it left behind.  A `Call` is one reference to be followed, and what it gives
**alone** is the answer if nothing was met before.

A path is left behind only if it is no reference into the section it is used for.  It
may still be one into another section, and then a later chain that meets it there is
cut off.  So the answers are those of the calls alone exactly if no later chain comes
by such a path, unless the chain closes a circle right there.

* `Call.answer_eq`: one call with a history;
* `answers_eq_alone_iff`: many calls, each with the history of those before;
* `inlineDocument_eq_alone`: a whole document.
-/

namespace ClientGen

/-- A parameter, a request body or a response that is wanted in place. -/
inductive Call where
  | parameter (p : OrRef Parameter)
  | requestBody (b : OrRef RequestBody)
  | response (r : OrRef Response)

/-- What a call gives. -/
inductive Answer where
  | parameter (result : Except ReferenceError Parameter)
  | requestBody (result : Except ReferenceError RequestBody)
  | response (result : Except ReferenceError Response)

namespace Call

/-- The answer to a call, and the paths that count as met afterwards. -/
def answer (c : Components) (met : List String) : Call → Answer × List String
  | parameter p => (c.parameterCatalog.follow met p).map .parameter id
  | requestBody b => (c.requestBodyCatalog.follow met b).map .requestBody id
  | response r => (c.responseCatalog.follow met r).map .response id

/-- The answer if nothing was met before. -/
def alone (c : Components) (x : Call) : Answer := (x.answer c []).1

/-- The paths left behind if nothing was met before. -/
def leaves (c : Components) (x : Call) : List String := (x.answer c []).2

/-- The paths met if nothing was met before. -/
def trail (c : Components) : Call → List String
  | parameter p => c.parameterCatalog.trail [] p
  | requestBody b => c.requestBodyCatalog.trail [] b
  | response r => c.responseCatalog.trail [] r

/-- The answer that the chain closes a circle at a path. -/
def circularAt (path : String) : Call → Answer
  | parameter _ => .parameter (.error (.circular path))
  | requestBody _ => .requestBody (.error (.circular path))
  | response _ => .response (.error (.circular path))

/-- **One call.**  It is cut off at the first path of its trail that is in the history,
and otherwise answered as if it were alone. -/
theorem answer_eq (c : Components) (history : List String) (x : Call) :
    x.answer c history =
      match (x.trail c).find? (· ∈ history) with
      | some path => (x.circularAt path, history)
      | none => (x.alone c, x.leaves c ++ history) := by
  cases x with
  | parameter p => exact (congrArg _ (Catalog.follow_eq history p)).trans (Catalog.map_disturbed _)
  | requestBody b => exact (congrArg _ (Catalog.follow_eq history b)).trans (Catalog.map_disturbed _)
  | response r => exact (congrArg _ (Catalog.follow_eq history r)).trans (Catalog.map_disturbed _)

/-- A call that alone closes a circle leaves nothing behind. -/
theorem leaves_eq_nil {c : Components} {x : Call} {path : String}
    (h : x.alone c = x.circularAt path) : x.leaves c = [] := by
  cases x with
  | parameter p => exact Catalog.follow_snd_eq_nil_of_circular (Answer.parameter.inj h)
  | requestBody b => exact Catalog.follow_snd_eq_nil_of_circular (Answer.requestBody.inj h)
  | response r => exact Catalog.follow_snd_eq_nil_of_circular (Answer.response.inj h)

/-- A call that no path left behind changes: the first such path on its trail, if there
is one, is where the chain closes a circle anyway. -/
def Undisturbed (c : Components) (history : List String) (x : Call) : Prop :=
  ∀ path, (x.trail c).find? (· ∈ history) = some path → x.alone c = x.circularAt path

/-- Such a call is answered as if it were alone. -/
theorem Undisturbed.answer_eq {c : Components} {history : List String} {x : Call}
    (h : x.Undisturbed c history) : x.answer c history = (x.alone c, x.leaves c ++ history) := by
  rw [Call.answer_eq]
  split
  next path hpath => rw [h path hpath, leaves_eq_nil (h path hpath), List.nil_append]
  · rfl

/-- Only such a call is. -/
theorem undisturbed_iff {c : Components} {history : List String} {x : Call} :
    x.Undisturbed c history ↔ (x.answer c history).1 = x.alone c := by
  constructor
  · intro h
    rw [h.answer_eq]
  · intro h path hpath
    rw [Call.answer_eq, hpath] at h
    exact h.symm

end Call

/-! ### Many calls -/

/-- The answers to some calls, each with what the calls before have left behind. -/
def answers (c : Components) (met : List String) : List Call → List Answer
  | [] => []
  | x :: rest => (x.answer c met).1 :: answers c (x.answer c met).2 rest

/-- The paths left behind by some calls, each of them alone, and a history before. -/
def leftBehind (c : Components) (history : List String) (calls : List Call) : List String :=
  calls.foldl (fun history x => x.leaves c ++ history) history

/-- Calls none of which is changed by a path that one of those before leaves behind. -/
def Undisturbed (c : Components) (history : List String) (calls : List Call) : Prop :=
  ∀ before x after, calls = before ++ x :: after →
    x.Undisturbed c (leftBehind c history before)

/-- The first call has the history before, the others also what the first one leaves. -/
theorem undisturbed_cons_iff {c : Components} {history : List String} {x : Call}
    {rest : List Call} :
    Undisturbed c history (x :: rest) ↔
      x.Undisturbed c history ∧ Undisturbed c (x.leaves c ++ history) rest := by
  constructor
  · intro h
    refine ⟨h [] x rest rfl, fun before y after hrest => ?_⟩
    exact h (x :: before) y after (by rw [hrest, List.cons_append])
  · rintro ⟨hfirst, hrest⟩ before y after hsplit
    cases before with
    | nil =>
        cases hsplit
        exact hfirst
    | cons z before =>
        cases hsplit
        exact hrest before y after rfl

/-- Calls that leave nothing behind, each of them alone, do not disturb each other. -/
theorem undisturbed_of_leaves_eq_nil {c : Components} {calls : List Call}
    (h : ∀ x ∈ calls, x.leaves c = []) : Undisturbed c [] calls := by
  induction calls with
  | nil => simp [Undisturbed]
  | cons x rest ih =>
      rw [undisturbed_cons_iff, h x List.mem_cons_self]
      refine ⟨fun path hpath => ?_, ih fun y hy => h y (List.mem_cons_of_mem _ hy)⟩
      have hmet := List.find?_some hpath
      simp at hmet

/-- Calls with a history are answered as if they were alone exactly if none of them is
disturbed. -/
theorem answers_eq_map_alone_iff {c : Components} {history : List String} {calls : List Call} :
    answers c history calls = calls.map (Call.alone c) ↔ Undisturbed c history calls := by
  induction calls generalizing history with
  | nil => simp [answers, Undisturbed]
  | cons x rest ih =>
      rw [undisturbed_cons_iff, answers, List.map_cons, List.cons.injEq, ← Call.undisturbed_iff]
      apply and_congr_right
      intro hx
      rw [hx.answer_eq]
      exact ih

/-! ### Whole documents -/

/-- The references of an operation, in the order in which they are followed. -/
def Operation.calls (op : Operation) : List Call :=
  op.parameters.map .parameter ++ op.requestBody.toList.map .requestBody
    ++ op.responses.map fun r => .response r.2

/-- The references on a path. -/
def PathItem.calls (item : PathItem) : List Call :=
  item.parameters.map .parameter ++ item.operations.flatMap fun entry => entry.2.calls

/-- The references under the paths of a document. -/
def Document.calls (d : Document) : List Call := d.paths.flatMap fun entry => entry.2.calls

/-- An item in place of its reference, or something else if the chain ends in nothing. -/
def inPlace {α : Type} (result : Except ReferenceError α) (otherwise : OrRef α) : OrRef α :=
  match result with
  | .ok item => .inline item
  | .error _ => otherwise

/-- A parameter in place of its reference if it can be followed alone. -/
def parameterAlone (c : Components) (p : OrRef Parameter) : OrRef Parameter :=
  inPlace (c.parameterCatalog.follow [] p).1 p

/-- A request body in place of its reference if it can be followed alone. -/
def requestBodyAlone (c : Components) (b : OrRef RequestBody) : OrRef RequestBody :=
  inPlace (c.requestBodyCatalog.follow [] b).1 b

/-- A response in place of its reference, or an empty one if it cannot be followed alone. -/
def responseAlone (c : Components) (r : OrRef Response) : OrRef Response :=
  inPlace (c.responseCatalog.follow [] r).1 (.inline {})

/-- An operation, each of whose references is followed alone. -/
def operationAlone (c : Components) (op : Operation) : Operation :=
  { op with
    parameters := op.parameters.map (parameterAlone c)
    requestBody := op.requestBody.map (requestBodyAlone c)
    responses := op.responses.map fun (status, r) => (status, responseAlone c r) }

/-- A path, each of whose references is followed alone. -/
def pathAlone (c : Components) (item : PathItem) : PathItem :=
  { item with
    parameters := item.parameters.map (parameterAlone c)
    operations := item.operations.map fun (method, op) => (method, operationAlone c op) }

/-- A document, each of whose references is followed alone. -/
def documentAlone (d : Document) : Document :=
  { d with paths := d.paths.map fun (path, item) => (path, pathAlone (d.components.getD {}) item) }

/-- Steps that give what they would give alone as long as none of their calls is
disturbed. -/
def Settles {β : Type} (c : Components) (f : List String → Logged (β × List String))
    (calls : List Call) (result : β) : Prop :=
  ∀ history, Undisturbed c history calls →
    (f history).value = (result, leftBehind c history calls)

section Settles

variable {β γ : Type} {c : Components} {calls more : List Call}

/-- What calls leave behind is what the later ones leave behind the earlier. -/
theorem leftBehind_append (history : List String) :
    leftBehind c history (calls ++ more) = leftBehind c (leftBehind c history calls) more :=
  List.foldl_append

/-- Some calls and then more, each with its history. -/
theorem undisturbed_append_iff {history : List String} :
    Undisturbed c history (calls ++ more) ↔
      Undisturbed c history calls ∧ Undisturbed c (leftBehind c history calls) more := by
  induction calls generalizing history with
  | nil => simp [Undisturbed, leftBehind]
  | cons x rest ih =>
      rw [List.cons_append, undisturbed_cons_iff, undisturbed_cons_iff, ih, and_assoc]
      rfl

theorem settles_pure (b : β) : Settles c (fun met => pure (b, met)) [] b :=
  fun _ _ => rfl

/-- One step after another. -/
theorem Settles.bind {f : List String → Logged (β × List String)} {b : β}
    {g : β → List String → Logged (γ × List String)} {result : γ} (hf : Settles c f calls b)
    (hg : Settles c (g b) more result) :
    Settles c (fun met => f met >>= fun (b, met) => g b met) (calls ++ more) result := by
  intro history h
  obtain ⟨hcalls, hmore⟩ := undisturbed_append_iff.mp h
  rw [Logged.value_bind, hf history hcalls, leftBehind_append]
  exact hg _ hmore

/-- The result put to use. -/
theorem Settles.map {f : List String → Logged (β × List String)} {b : β}
    (hf : Settles c f calls b) (k : β → γ) :
    Settles c (fun met => f met >>= fun (b, met) => pure (k b, met)) calls (k b) := by
  intro history h
  rw [Logged.value_bind, hf history h]
  rfl

/-- A step for each item of a list. -/
theorem Settles.thread {f : List String → β → Logged (γ × List String)} {each : β → List Call}
    {result : β → γ} (h : ∀ b, Settles c (fun met => f met b) (each b) (result b))
    (items : List β) :
    Settles c (fun met => Logged.thread f met items) (items.flatMap each) (items.map result) := by
  induction items with
  | nil => exact settles_pure []
  | cons b rest ih =>
      have hrest := ih.map (result b :: ·)
      exact Settles.bind (g := fun first met => Logged.thread f met rest >>= fun (others, met) =>
        pure (first :: others, met)) (h b) hrest

/-- A step for each value of a map. -/
theorem Settles.threadValues {κ : Type} {f : List String → κ → β → Logged (γ × List String)}
    {each : β → List Call} {result : β → γ}
    (h : ∀ k b, Settles c (fun met => f met k b) (each b) (result b)) (entries : List (κ × β)) :
    Settles c (fun met => Logged.threadValues f met entries)
      (entries.flatMap fun entry => each entry.2)
      (entries.map fun (k, b) => (k, result b)) :=
  Settles.thread (fun (k, b) => (h k b).map fun b => (k, b)) entries

/-- A parameter is replaced by what its chain ends in, whatever was met before. -/
theorem inlineParameter_value (place : Place) (met : List String) (p : OrRef Parameter) :
    (inlineParameter c place met p).value =
      (c.parameterCatalog.follow met p).map (inPlace · p) id := by
  unfold inlineParameter
  split
  next item after hfollow =>
    rw [hfollow]
    rfl
  next cause after hfollow =>
    rw [hfollow]
    rfl

/-- So is a request body. -/
theorem inlineRequestBody_value (place : Place) (met : List String) (b : OrRef RequestBody) :
    (inlineRequestBody c place met b).value =
      (c.requestBodyCatalog.follow met b).map (inPlace · b) id := by
  unfold inlineRequestBody
  split
  next item after hfollow =>
    rw [hfollow]
    rfl
  next cause after hfollow =>
    rw [hfollow]
    rfl

/-- So is a response, which becomes empty where the chain ends in nothing. -/
theorem inlineResponse_value (place : Place) (met : List String) (status : String)
    (r : OrRef Response) :
    (inlineResponse c place met status r).value =
      (c.responseCatalog.follow met r).map (inPlace · (.inline {})) id := by
  unfold inlineResponse
  split
  next item after hfollow =>
    rw [hfollow]
    rfl
  next cause after hfollow =>
    rw [hfollow]
    rfl

/-- A step that puts the end of a chain to use gives what it would give alone, if the call
for that chain is not disturbed. -/
theorem settles_of_follow {α : Type} {t : Catalog α} {entry : OrRef α} {x : Call}
    {wrap : Except ReferenceError α → Answer} (hwrap : Function.Injective wrap)
    (hx : ∀ met, x.answer c met = (t.follow met entry).map wrap id)
    {f : List String → Logged (β × List String)} {result : Except ReferenceError α → β}
    (hf : ∀ met, (f met).value = (t.follow met entry).map result id) :
    Settles c f [x] (result (t.follow [] entry).1) := by
  intro history h
  have hanswer := (undisturbed_cons_iff.mp h).1.answer_eq
  have hsame : (t.follow history entry).1 = (t.follow [] entry).1 := by
    apply hwrap
    have hresult := congrArg Prod.fst hanswer
    rwa [Call.alone, hx, hx] at hresult
  have hafter : (t.follow history entry).2 = x.leaves c ++ history := by
    have hstate := congrArg Prod.snd hanswer
    rwa [hx] at hstate
  rw [hf]
  exact Prod.ext (congrArg result hsame) hafter

theorem settles_parameter (place : Place) (p : OrRef Parameter) :
    Settles c (fun met => inlineParameter c place met p) [.parameter p] (parameterAlone c p) :=
  settles_of_follow (fun _ _ => Answer.parameter.inj) (fun _ => rfl)
    (inlineParameter_value place · p)

theorem settles_requestBody (place : Place) (b : OrRef RequestBody) :
    Settles c (fun met => inlineRequestBody c place met b) [.requestBody b]
      (requestBodyAlone c b) :=
  settles_of_follow (fun _ _ => Answer.requestBody.inj) (fun _ => rfl)
    (inlineRequestBody_value place · b)

theorem settles_response (place : Place) (status : String) (r : OrRef Response) :
    Settles c (fun met => inlineResponse c place met status r) [.response r]
      (responseAlone c r) :=
  settles_of_follow (fun _ _ => Answer.response.inj) (fun _ => rfl)
    (inlineResponse_value place · status r)

/-- A body that may be missing is one call at most. -/
theorem settles_requestBody? (place : Place) (b? : Option (OrRef RequestBody)) :
    Settles c (fun met => inlineRequestBody? c place met b?) (b?.toList.map .requestBody)
      (b?.map (requestBodyAlone c)) := by
  cases b? with
  | none => exact settles_pure none
  | some b => exact (settles_requestBody place b).map some

/-- Parameters are one call each, in their order. -/
theorem settles_parameters (place : Place) (list : List (OrRef Parameter)) :
    Settles c (fun met => Logged.thread (inlineParameter c place) met list)
      (list.map .parameter) (list.map (parameterAlone c)) := by
  rw [List.map_eq_flatMap (f := Call.parameter)]
  exact Settles.thread (settles_parameter place) list

/-- Responses are one call each, in their order. -/
theorem settles_responses (place : Place) (entries : List (String × OrRef Response)) :
    Settles c (fun met => Logged.threadValues (inlineResponse c place) met entries)
      (entries.map fun r => .response r.2)
      (entries.map fun (status, r) => (status, responseAlone c r)) := by
  rw [List.map_eq_flatMap (f := fun r : String × OrRef Response => Call.response r.2)]
  exact Settles.threadValues (settles_response place) entries

/-- An operation none of whose references is disturbed is made of what they give alone. -/
theorem settles_operation (path : String) (method : Method) (op : Operation) :
    Settles c (fun met => inlineOperation c path met method op) op.calls (operationAlone c op) := by
  intro history h
  obtain ⟨hfront, hresponses⟩ := undisturbed_append_iff.mp h
  obtain ⟨hparameters, hbody⟩ := undisturbed_append_iff.mp hfront
  have hfirst := settles_parameters ⟨some method, path⟩ op.parameters history hparameters
  have hsecond := settles_requestBody? ⟨some method, path⟩ op.requestBody _ hbody
  rw [← leftBehind_append] at hsecond
  have hthird := settles_responses ⟨some method, path⟩ op.responses _ hresponses
  rw [← leftBehind_append] at hthird
  simp only [inlineOperation, Logged.value_bind, hfirst, hsecond, hthird]
  rfl

/-- So is a path. -/
theorem settles_path (path : String) (item : PathItem) :
    Settles c (fun met => inlinePath c met path item) item.calls (pathAlone c item) := by
  intro history h
  obtain ⟨hparameters, hoperations⟩ := undisturbed_append_iff.mp h
  have hfirst := settles_parameters ⟨none, path⟩ item.parameters history hparameters
  have hsecond := Settles.threadValues (settles_operation path) item.operations _ hoperations
  rw [← leftBehind_append] at hsecond
  simp only [inlinePath, Logged.value_bind, hfirst, hsecond]
  rfl

end Settles

/-- **A whole document.**  If no reference under its paths is disturbed by those before,
each of them is replaced as if it were the only one. -/
theorem inlineDocument_eq_alone {d : Document}
    (h : Undisturbed (d.components.getD {}) [] d.calls) :
    (inlineDocument d).value = documentAlone d := by
  have hpaths := Settles.threadValues settles_path d.paths [] h
  simp only [inlineDocument, inlineDocumentFrom, Logged.value_bind, hpaths]
  rfl

/-- **Histories.**  The answers to some calls are those they get alone exactly if none of
them comes by a path that those before have left behind, unless it closes a circle
there.  So they are if none of them leaves anything behind alone.  If it holds of all
references of a document, each of them is replaced as if it were the only one. -/
theorem answers_eq_alone_iff (d : Document) :
    let c := d.components.getD {}
    (∀ calls, answers c [] calls = calls.map (Call.alone c) ↔ Undisturbed c [] calls) ∧
    (∀ calls : List Call, (∀ x ∈ calls, x.leaves c = []) → Undisturbed c [] calls) ∧
    (Undisturbed c [] d.calls → (inlineDocument d).value = documentAlone d) :=
  ⟨fun _ => answers_eq_map_alone_iff, fun _ => undisturbed_of_leaves_eq_nil,
    inlineDocument_eq_alone⟩

/-- A response is lost if its path was used for a parameter before. -/
theorem answers_ne_alone_of_misplaced {c : Components} {path name : String} {fault : PathFault}
    {r : Response} (hfault : refName path "parameters" = .error fault)
    (hname : refName path "responses" = .ok name)
    (htarget : c.responses.lookup name = some (.inline r)) :
    answers c [] [.parameter (.ref path), .response (.ref path)] ≠
      [.parameter (.ref path), .response (.ref path)].map (Call.alone c) := by
  have hparameter : c.parameterCatalog.follow [] (.ref path) =
      (.error (.invalidFormat fault), [path]) :=
    Catalog.follow_of_invalid List.not_mem_nil hfault
  have hresponse : c.responseCatalog.follow [path] (.ref path) =
      (.error (.circular path), [path]) :=
    Catalog.follow_of_mem List.mem_cons_self
  have halone : (c.responseCatalog.follow [] (.ref path)).1 = .ok r := by
    rw [Catalog.follow_of_target (t := c.responseCatalog) List.not_mem_nil hname htarget,
      Catalog.follow_inline]
  have hleaves : (Call.parameter (.ref path)).leaves c ++ [] = [path] :=
    congrArg (fun answer => answer.2 ++ []) hparameter
  intro h
  have hrest := (undisturbed_cons_iff.mp (answers_eq_map_alone_iff.mp h)).2
  rw [hleaves] at hrest
  have hsecond := Call.undisturbed_iff.mp (undisturbed_cons_iff.mp hrest).1
  have hcircular : (c.responseCatalog.follow [path] (.ref path)).1 = .ok r :=
    (Answer.response.inj hsecond).trans halone
  rw [hresponse] at hcircular
  cases hcircular

/-- Such a document. -/
theorem answers_of_misplaced_reference :
    let d : Document :=
      { version := "3.0.3"
        info := ⟨"Pets", none, "1"⟩
        components := some { responses := [("Ok", .inline { description := some "fine" })] } }
    let path := "#/components/responses/Ok"
    let calls : List Call := [.parameter (.ref path), .response (.ref path)]
    answers (d.components.getD {}) [] calls ≠ calls.map (Call.alone (d.components.getD {})) := by
  have hfault : refName "#/components/responses/Ok" "parameters" =
      .error (.wrongSection "parameters" "responses" "#/components/responses/Ok") := by
    simp [refName, afterStart?, componentsRoot, cutAtSlash?]
  have hname : refName "#/components/responses/Ok" "responses" = .ok "Ok" := by
    simp [refName, afterStart?, componentsRoot, cutAtSlash?]
  exact answers_ne_alone_of_misplaced hfault hname rfl

end ClientGen
