import ClientGen.Analysis.Notice

/-!
# References followed to what they stand for

Parameters, request bodies and responses that are given by reference are replaced
by what the components declare, which may be a reference again.  Schemas keep
their references, since these carry the names of the models.

A chain of references is followed with the paths met so far.  A path that is met
again closes a circle.  When a chain is done its paths are forgotten, but a path
that is no reference into the section stays behind, so that it counts as met from
then on.

* `follow`: one chain; it ends because the components of a section whose path has
  not been met become fewer with each step.
* `inlineDocument`: all references under the paths of a document.  What cannot be
  followed stays as it is, and a response becomes empty.
-/

namespace ClientGen

/-- The declarations of one kind, and the section they are in. -/
structure Catalog (α : Type) where
  part : String
  entries : List (String × OrRef α)

namespace Components

/-- The parameters for reference. -/
def parameterCatalog (c : Components) : Catalog Parameter := ⟨"parameters", c.parameters⟩

/-- The request bodies for reference. -/
def requestBodyCatalog (c : Components) : Catalog RequestBody := ⟨"requestBodies", c.requestBodies⟩

/-- The responses for reference. -/
def responseCatalog (c : Components) : Catalog Response := ⟨"responses", c.responses⟩

end Components

namespace Catalog

variable {α : Type}

/-- The declarations whose path has not been met. -/
def unmet (t : Catalog α) (met : List String) : List (String × OrRef α) :=
  t.entries.filter fun entry => refPath t.part entry.1 ∉ met

/-- Each path that is followed leaves fewer names unmet. -/
theorem unmet_lt {t : Catalog α} {met : List String} {path name : String} {target : OrRef α}
    (hpath : path ∉ met) (hname : refName path t.part = .ok name)
    (htarget : t.entries.lookup name = some target) :
    (t.unmet (path :: met)).length < (t.unmet met).length := by
  have hp := eq_refPath_of_refName hname
  have hmem : (name, target) ∈ t.entries := by
    have : ∀ l : List (String × OrRef α), l.lookup name = some target → (name, target) ∈ l := by
      intro l
      induction l with
      | nil => simp
      | cons e l ih =>
        obtain ⟨k, v⟩ := e
        by_cases hk : name = k
        · subst hk; simp; intro h; exact .inl h.symm
        · have : (name == k) = false := by simpa using hk
          simp only [List.lookup_cons, this]
          intro h; exact List.mem_cons_of_mem _ (ih h)
    exact this _ htarget
  have hsub : t.unmet (path :: met) =
      (t.unmet met).filter fun entry => refPath t.part entry.1 ≠ path := by
    simp [unmet, List.filter_filter]
  rw [hsub]
  apply List.length_filter_lt_length_iff_exists.2
  exact ⟨(name, target), by simp [unmet, hmem, ← hp, hpath], by simp [← hp]⟩

/-- The item a chain of references ends in, and the paths that count as met afterwards. -/
def follow (t : Catalog α) (met : List String) :
    OrRef α → Except ReferenceError α × List String
  | .inline item => (.ok item, met)
  | .ref path =>
    if _hpath : path ∈ met then (.error (.circular path), met)
    else
      match _hname : refName path t.part with
      | .error fault => (.error (.invalidFormat fault), path :: met)
      | .ok name =>
        match _htarget : t.entries.lookup name with
        | none => (.error (.targetNotFound path), met)
        | some target =>
          let (result, after) := t.follow (path :: met) target
          (result, after.erase path)
termination_by (t.unmet met).length
decreasing_by exact unmet_lt _hpath _hname _htarget

end Catalog

/-- A parameter in place of its reference, or the reference if it cannot be followed. -/
def inlineParameter (c : Components) (place : Place) (met : List String) (p : OrRef Parameter) :
    Logged (OrRef Parameter × List String) :=
  match c.parameterCatalog.follow met p with
  | (.ok item, after) => pure (.inline item, after)
  | (.error e, after) => ⟨(p, after), [.parameterLeft place e]⟩

/-- A request body in place of its reference, or the reference if it cannot be followed. -/
def inlineRequestBody (c : Components) (place : Place) (met : List String)
    (b : OrRef RequestBody) : Logged (OrRef RequestBody × List String) :=
  match c.requestBodyCatalog.follow met b with
  | (.ok item, after) => pure (.inline item, after)
  | (.error e, after) => ⟨(b, after), [.requestBodyLeft place e]⟩

/-- A response in place of its reference, or an empty one if it cannot be followed. -/
def inlineResponse (c : Components) (place : Place) (met : List String) (status : String)
    (r : OrRef Response) : Logged (OrRef Response × List String) :=
  match c.responseCatalog.follow met r with
  | (.ok item, after) => pure (.inline item, after)
  | (.error e, after) => ⟨(.inline {}, after), [.responseEmptied place status e]⟩

/-- The request body of an operation, if it has one. -/
def inlineRequestBody? (c : Components) (place : Place) (met : List String) :
    Option (OrRef RequestBody) → Logged (Option (OrRef RequestBody) × List String)
  | none => pure (none, met)
  | some b => do
    let (b, met) ← inlineRequestBody c place met b
    pure (some b, met)

/-- An operation without references to parameters, bodies and responses. -/
def inlineOperation (c : Components) (path : String) (met : List String) (method : Method)
    (op : Operation) : Logged (Operation × List String) := do
  let place : Place := ⟨some method, path⟩
  let (parameters, met) ← Logged.thread (inlineParameter c place) met op.parameters
  let (requestBody, met) ← inlineRequestBody? c place met op.requestBody
  let (responses, met) ← Logged.threadValues (inlineResponse c place) met op.responses
  pure ({ op with parameters, requestBody, responses }, met)

/-- A path without references to parameters, bodies and responses. -/
def inlinePath (c : Components) (met : List String) (path : String) (item : PathItem) :
    Logged (PathItem × List String) := do
  let (parameters, met) ← Logged.thread (inlineParameter c ⟨none, path⟩) met item.parameters
  let (operations, met) ← Logged.threadValues (inlineOperation c path) met item.operations
  pure ({ item with parameters, operations }, met)

/-- A document without references under its paths, given the paths met before. -/
def inlineDocumentFrom (met : List String) (d : Document) : Logged (Document × List String) := do
  let (paths, met) ← Logged.threadValues (inlinePath (d.components.getD {})) met d.paths
  pure ({ d with paths }, met)

/-- A document without references under its paths. -/
def inlineDocument (d : Document) : Logged Document := do
  let (d, _) ← inlineDocumentFrom [] d
  pure d

end ClientGen
