import ClientGen.Analysis.Operation
import ClientGen.Document.Inline
import ClientGen.Endpoint.Group
import ClientGen.Model.Build

/-!
# The analysis of a document

An `Analyzer` holds a document without references under its paths, its endpoints
and their groups.  `Analyzer.analyze` makes an operation of each endpoint in some
group and a model of each key that is selected.  An endpoint in several groups is
analyzed once.  Endpoints and models that fail are left out, and the failures are
listed in the order in which they are met; if the first failure is to end it all,
it is the answer.
-/

namespace ClientGen

/-- A document and what is generated from it. -/
structure Analyzer where
  /-- Without references to parameters, bodies and responses under its paths. -/
  document : Document
  endpoints : List Endpoint
  groups : List Group
  /-- The tags asked for; none if all are. -/
  allow : List String

/-- The operations of one group. -/
structure AnalyzedApi where
  group : Group
  operations : List AnalyzedOperation
  deriving Repr

/-- What came of a document. -/
structure Analysis where
  apis : List AnalyzedApi := []
  models : List Model := []
  failures : List Failure := []
  deriving Repr

/-- The answers for the endpoints met so far, latest first, and the failures in order. -/
structure Progress where
  known : List (Nat × Option AnalyzedOperation) := []
  failures : List Failure := []

namespace Analyzer

/-- The analyzer of a document without references. -/
def ofInlined (d : Document) (allow : List String) : Analyzer :=
  let endpoints := Endpoint.ofDocument d
  ⟨d, endpoints, groupByTag endpoints allow, allow⟩

/-- The tags that were asked for and have no group. -/
def unmatchedTags (a : Analyzer) : List String :=
  a.allow.filter fun tag => !a.groups.any fun g => g.name.text == tag

/-- The analyzer of a document. -/
def ofDocument (d : Document) (allow : List String) : Logged Analyzer := do
  let d ← inlineDocument d
  let a := ofInlined d allow
  ⟨a, a.unmatchedTags.map .unmatchedTag⟩

/-- The declared schemas. -/
def schemas (a : Analyzer) : Schemas := a.document.schemas

/-- The endpoints of a group. -/
def members (a : Analyzer) (g : Group) : List Endpoint :=
  g.members.filterMap fun i => a.endpoints[i]?

/-- The keys that the endpoints of the groups depend on. -/
def reached (a : Analyzer) : NameSet :=
  (a.groups.flatMap a.members).foldl (fun found e => found.union (e.discover a.schemas)) ∅

/-- The keys of the models: all that are declared, or those the groups asked for depend on. -/
def modelKeys (a : Analyzer) : List String :=
  let keys := a.schemas.map (·.1)
  if a.allow.isEmpty then keys else
    let found := a.reached
    keys.filter fun key => decide (key ∈ found)

/-- The model of a key. -/
def model (a : Analyzer) (key : String) : Except Failure Model := a.schemas.model key

/-- An endpoint met for the first time. -/
def analyzeNew (a : Analyzer) (failFast : Bool) (p : Progress) (i : Nat) (e : Endpoint) :
    Logged (Except Failure (Option AnalyzedOperation × Progress)) :=
  let notices := e.notices a.schemas
  match e.analyze a.schemas with
  | .ok op => ⟨.ok (some op, { p with known := (i, some op) :: p.known }), notices⟩
  | .error f =>
    if failFast then ⟨.error f, notices⟩
    else ⟨.ok (none, ⟨(i, none) :: p.known, p.failures ++ [f]⟩), notices ++ [.leftOut f]⟩

/-- The operation of the endpoint at a position, if it has not failed. -/
def analyzeMember (a : Analyzer) (failFast : Bool) (p : Progress) (i : Nat) :
    ExceptT Failure Logged (Option AnalyzedOperation × Progress) :=
  match p.known.lookup i, a.endpoints[i]? with
  | some answer, _ => pure (answer, p)
  | none, none => pure (none, p)
  | none, some e => ExceptT.mk (a.analyzeNew failFast p i e)

/-- The operations of the endpoints at some positions. -/
def analyzeMembers (a : Analyzer) (failFast : Bool) (p : Progress) :
    List Nat → ExceptT Failure Logged (List AnalyzedOperation × Progress)
  | [] => pure ([], p)
  | i :: rest => do
    let (op?, p) ← a.analyzeMember failFast p i
    let (ops, p) ← a.analyzeMembers failFast p rest
    pure (op?.toList ++ ops, p)

/-- The operations of some groups. -/
def analyzeGroups (a : Analyzer) (failFast : Bool) (p : Progress) :
    List Group → ExceptT Failure Logged (List AnalyzedApi × Progress)
  | [] => pure ([], p)
  | g :: rest => do
    let (ops, p) ← a.analyzeMembers failFast p g.members
    let (apis, p) ← a.analyzeGroups failFast p rest
    pure (⟨g, ops⟩ :: apis, p)

/-- The models of some keys, and the failures with those met before. -/
def analyzeModels (a : Analyzer) (failFast : Bool) (failures : List Failure) :
    List String → ExceptT Failure Logged (List Model × List Failure)
  | [] => pure ([], failures)
  | key :: rest =>
    match a.model key with
    | .ok m => do
      let (models, failures) ← a.analyzeModels failFast failures rest
      pure (m :: models, failures)
    | .error f =>
      if failFast then throw f
      else do
        ExceptT.lift (Logged.note (.leftOut f))
        a.analyzeModels failFast (failures ++ [f]) rest

/-- The operations of all groups and the models of all selected keys. -/
def analyzeAll (a : Analyzer) (failFast : Bool) : ExceptT Failure Logged Analysis := do
  let (apis, p) ← a.analyzeGroups failFast {} a.groups
  let (models, failures) ← a.analyzeModels failFast p.failures a.modelKeys
  pure ⟨apis, models, failures⟩

/-- What comes of the document, or the first failure if that is to end it all. -/
def analyze (a : Analyzer) (failFast : Bool) : Logged (Except Failure Analysis) :=
  (a.analyzeAll failFast).run

end Analyzer

end ClientGen
