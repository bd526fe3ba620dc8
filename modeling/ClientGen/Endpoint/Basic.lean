import ClientGen.Document.Basic
import ClientGen.Naming
import ClientGen.Text.Blank

/-!
# Endpoints

An `Endpoint` is one operation together with what it takes over from its path and
its document: inherited parameters, security and, where it has no id of its own, a
name.

* `mergeParameters`: the parameters of a path, each replaced in place by one of the
  operation with the same name and location, and then those only the operation has.
* `Endpoint.ofDocument`: the endpoints in the order of the document.
-/

namespace ClientGen

/-- One operation on one path. -/
structure Endpoint where
  path : String
  method : Method
  /-- The operation with the parameters of its path. -/
  operation : Operation
  /-- Without repetitions. -/
  tags : List String
  /-- The security schemes it asks for, without repetitions. -/
  securityNames : List String
  name : Name

/-- The first occurrence of each text, given those that occurred before. -/
def distinctFrom (seen : List String) : List String → List String
  | [] => []
  | s :: rest =>
    if s ∈ seen then distinctFrom seen rest else s :: distinctFrom (s :: seen) rest

/-- The first occurrence of each text. -/
def distinct (texts : List String) : List String := distinctFrom [] texts

/-- Whether an entry is the parameter itself and has the slot of `p`. -/
def hasSlot (p : Parameter) (entry : OrRef Parameter) : Bool := entry.item?.any (·.sameSlot p)

/-- Puts a parameter in place of the first that has its slot, or behind all others. -/
def replaceSlot (p : Parameter) : List (OrRef Parameter) → List (OrRef Parameter)
  | [] => [.inline p]
  | entry :: rest => if hasSlot p entry then .inline p :: rest else entry :: replaceSlot p rest

/-- The parameters with one more, which may replace one of them. -/
def addParameter (merged : List (OrRef Parameter)) : OrRef Parameter → List (OrRef Parameter)
  | .inline p => replaceSlot p merged
  | .ref path => merged ++ [.ref path]

/-- Inherited parameters overridden and extended by an operation's own. -/
def mergeParameters (inherited own : List (OrRef Parameter)) : List (OrRef Parameter) :=
  own.foldl addParameter inherited

/-- The schemes an operation asks for, which are those of the document if it does not say. -/
def securityNames (d : Document) (op : Operation) : List String :=
  let requirements := (op.security.or d.security).getD []
  distinct (requirements.flatMap fun r => r.map (·.1))

/-- The name of an operation without an id: its method and its path. -/
def Name.ofPlace (method : Method) (path : String) : Name := Name.ofText (method.key ++ path)

/-- The name of an operation. -/
def operationName (method : Method) (path : String) (op : Operation) : Name :=
  match op.operationId.filter fun id => Text.trim id ≠ "" with
  | some id => Name.ofText id
  | none => Name.ofPlace method path

namespace Endpoint

/-- The endpoint of an operation. -/
def ofOperation (d : Document) (path : String) (inherited : List (OrRef Parameter))
    (method : Method) (op : Operation) : Endpoint where
  path := path
  method := method
  operation := { op with parameters := mergeParameters inherited op.parameters }
  tags := distinct op.tags
  securityNames := ClientGen.securityNames d op
  name := operationName method path op

/-- The endpoints of a document. -/
def ofDocument (d : Document) : List Endpoint :=
  d.paths.flatMap fun (path, item) =>
    item.operations.map fun (method, op) => ofOperation d path item.parameters method op

/-- The parameters that are given in place. -/
def parameters (e : Endpoint) : List Parameter := e.operation.parameters.filterMap OrRef.item?

/-- The request body, if it is given in place. -/
def requestBody? (e : Endpoint) : Option RequestBody := e.operation.requestBody.bind OrRef.item?

end Endpoint

end ClientGen
