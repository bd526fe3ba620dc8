import ClientGen.Analysis.Parameters
import ClientGen.Model.Discovery

/-!
# Operations ready to be written

An `AnalyzedOperation` is all that is needed to write the two functions of an
endpoint: their parameters, what they return, and what is said about them.
-/

namespace ClientGen

/-- What the response of an operation holds. -/
inductive Returns where
  | json (type : TypeDesc)
  /-- A body that is no JSON, as it is. -/
  | binary
  | empty
  deriving DecidableEq, Repr

/-- An operation ready to be written. -/
structure AnalyzedOperation where
  name : Name
  method : Method
  path : String
  summary : Option String := none
  description : Option String := none
  deprecated : Bool := false
  securityNames : List String := []
  /-- How the request body becomes parameters, if there is one. -/
  flavor : Option BodyFlavor := none
  /-- The declared parameters, then those of the request body. -/
  parameters : List ParameterPair := []
  returns : Returns := .empty
  responseDescription : Option String := none
  /-- The keys of all models the operation depends on. -/
  models : NameSet := ∅
  deriving Repr

namespace AnalyzedOperation

/-- How far in front a parameter of the interface stands. -/
def rank (p : InterfaceParameter) : Nat :=
  match p.placement with
  | .path => 0
  | .body => 2
  | _ => 1

/-- The parameters of the interface: those of the path first and the body last. -/
def interfaceParameters (op : AnalyzedOperation) : List InterfaceParameter :=
  (op.parameters.map (·.interface)).mergeSort fun p q => rank p ≤ rank q

/-- The parameters for callers. -/
def callerParameters (op : AnalyzedOperation) : List CallerParameter :=
  op.parameters.map (·.caller)

/-- Whether a parameter is the whole body. -/
def hasBody (op : AnalyzedOperation) : Bool :=
  op.parameters.any fun p => p.interface.placement == .body

/-- The keys in the type of the response. -/
def returnKeys (op : AnalyzedOperation) : List String :=
  match op.returns with
  | .json t => t.keys
  | .binary => []
  | .empty => []

/-- The keys in the types of the parameters and the response. -/
def signatureModels (op : AnalyzedOperation) : NameSet :=
  .ofList (op.parameters.flatMap (·.interface.type.keys) ++ op.returnKeys)

end AnalyzedOperation

namespace Endpoint

/-- What the response holds.  A type that cannot be told counts as no body. -/
def returns (schemas : Schemas) (e : Endpoint) : Returns :=
  match e.response?.bind (·.body) with
  | none => .empty
  | some body =>
    if body.kind = .json then
      match schemas.typeOf? body.schema with
      | .ok t => .json t
      | .error _ => .empty
    else .binary

/-- What is remarked about the response. -/
def responseNotices (schemas : Schemas) (e : Endpoint) : List Notice :=
  match e.response? with
  | none => [.noResponses e.place]
  | some response =>
    match response.body with
    | none => []
    | some body =>
      if body.kind = .json then
        match schemas.typeOf? body.schema with
        | .ok _ => []
        | .error cause => [.untypedResponse e.place cause]
      else []

/-- The operation of an endpoint, ready to be written. -/
def analyze (schemas : Schemas) (e : Endpoint) : Except Failure AnalyzedOperation :=
  (e.pairs schemas).map fun parameters =>
    { name := e.name
      method := e.method
      path := e.path
      summary := e.operation.summary
      description := e.operation.description
      deprecated := e.operation.deprecated.getD false
      securityNames := e.securityNames
      flavor := e.flavor?
      parameters := parameters
      returns := e.returns schemas
      responseDescription := e.response?.bind (·.description)
      models := e.discover schemas }

/-- What is remarked about an endpoint before its failure, or all that is if it has none. -/
def notices (schemas : Schemas) (e : Endpoint) : List Notice :=
  match e.declaredPairs schemas with
  | .error _ => []
  | .ok _ =>
    match e.requestPairs schemas with
    | .error _ => []
    | .ok _ => e.bodyNotices ++ e.responseNotices schemas

end Endpoint

end ClientGen
