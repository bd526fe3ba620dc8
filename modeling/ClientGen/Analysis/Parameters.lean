import ClientGen.Analysis.Notice
import ClientGen.Endpoint.Negotiation
import ClientGen.Model.Flatten
import ClientGen.Unique

/-!
# Parameters of the generated functions

Each endpoint becomes two functions: one of an interface, whose parameters say how
they are sent, and one for callers, whose parameters have defaults and
descriptions.  A `ParameterPair` is one parameter of both.  The declared parameters
come first, then those the request body yields: one for a whole body, one for each
property of a form.

A parameter that is not required is nullable, and callers may leave it out.
-/

namespace ClientGen

/-- How a parameter is sent. -/
inductive Placement where
  | path
  | query
  | header
  | cookie
  /-- The whole body. -/
  | body
  /-- A part of a multipart body. -/
  | part
  /-- A field of a form. -/
  | field
  deriving DecidableEq, Repr

/-- How a parameter with a location is sent. -/
def Location.placement : Location → Placement
  | .path => .path
  | .query => .query
  | .header => .header
  | .cookie => .cookie

/-- A parameter of the interface. -/
structure InterfaceParameter where
  name : String
  /-- The name under which it is sent. -/
  wireName : String
  placement : Placement
  type : TypeDesc
  deriving Repr

/-- A parameter for callers. -/
structure CallerParameter where
  name : String
  type : TypeDesc
  /-- Whether it may be left out. -/
  defaultsToAbsent : Bool
  description : Option String
  deriving Repr

/-- A parameter of the interface and the one for callers that is handed on to it. -/
structure ParameterPair where
  interface : InterfaceParameter
  caller : CallerParameter
  deriving Repr

namespace ParameterPair

/-- The pair for what is sent under a name, given the type of the values it may take. -/
def make (wireName : String) (placement : Placement) (type : TypeDesc) (required : Bool)
    (description : Option String) : ParameterPair :=
  let name := (Name.ofText wireName).camel
  let type := type.orNullIf !required
  ⟨⟨name, wireName, placement, type⟩, ⟨name, type, !required, description⟩⟩

/-- The pair under another name. -/
def rename (p : ParameterPair) (name : String) : ParameterPair :=
  ⟨{ p.interface with name }, { p.caller with name }⟩

end ParameterPair

/-- The pairs with a number behind each repeated name. -/
def disambiguate (pairs : List ParameterPair) : List ParameterPair :=
  List.zipWith .rename pairs (uniqueNames "" (pairs.map (·.interface.name)))

/-- The name of the parameter that is the whole body. -/
def bodyParameter : String := "body"

namespace Endpoint

/-- The place of an endpoint in the document. -/
def place (e : Endpoint) : Place := ⟨some e.method, e.path⟩

/-- The failure of a parameter or a field. -/
def parameterFailure (e : Endpoint) (name : String) (cause : ReferenceError) : Failure :=
  .parameter e.method e.path name cause

/-- The failure of the request body. -/
def bodyFailure (e : Endpoint) (cause : ReferenceError) : Failure :=
  .requestBody e.method e.path cause

/-- The reference that was left in place of a parameter or the request body, if any. -/
def leftReference? (e : Endpoint) : Option Failure :=
  match e.operation.parameters.findSome? OrRef.path? with
  | some path => some (e.parameterFailure path (.unresolved path))
  | none =>
    (e.operation.requestBody.bind OrRef.path?).map fun path => e.bodyFailure (.unresolved path)

/-- The pair of a declared parameter. -/
def parameterPair (schemas : Schemas) (e : Endpoint) (p : Parameter) :
    Except Failure ParameterPair :=
  match schemas.typeOf? p.schema with
  | .error cause => .error (e.parameterFailure p.name cause)
  | .ok t => .ok (.make p.name p.location.placement t p.isRequired p.description)

/-- The pair of a property of a form. -/
def fieldPair (schemas : Schemas) (e : Endpoint) (placement : Placement) (p : FlatProperty) :
    Except Failure ParameterPair :=
  match schemas.typeOf p.schema with
  | .error cause => .error (e.parameterFailure p.name cause)
  | .ok t => .ok (.make p.name placement t p.required p.schema.description?)

/-- The pairs of the properties of a form; a form without a schema has none. -/
def formPairs (schemas : Schemas) (e : Endpoint) (placement : Placement) :
    Option (OrRef Schema) → Except Failure (List ParameterPair)
  | none => .ok []
  | some s =>
    match schemas.flatten s with
    | .error cause => .error (e.bodyFailure cause)
    | .ok properties => properties.mapM (e.fieldPair schemas placement)

/-- The pairs a representation of the request body yields. -/
def bodyPairs (schemas : Schemas) (e : Endpoint) (r : Representation) :
    Except Failure (List ParameterPair) :=
  match r.kind.flavor with
  | .whole =>
    match schemas.typeOf? r.schema with
    | .error cause => .error (e.bodyFailure cause)
    | .ok t =>
      .ok [.make bodyParameter .body t r.required (e.requestBody?.bind RequestBody.description)]
  | .multipart => e.formPairs schemas .part r.schema
  | .urlEncoded => e.formPairs schemas .field r.schema
  | .unsupported => .ok []

/-- The pairs the request body yields, if there is one. -/
def requestPairs (schemas : Schemas) (e : Endpoint) : Except Failure (List ParameterPair) :=
  match e.request? with
  | none => .ok []
  | some r => e.bodyPairs schemas r

/-- The pairs of the declared parameters; no reference may be left. -/
def declaredPairs (schemas : Schemas) (e : Endpoint) : Except Failure (List ParameterPair) :=
  match e.leftReference? with
  | some failure => .error failure
  | none => e.parameters.mapM (e.parameterPair schemas)

/-- All pairs, under names that differ. -/
def pairs (schemas : Schemas) (e : Endpoint) : Except Failure (List ParameterPair) := do
  let declared ← e.declaredPairs schemas
  let body ← e.requestPairs schemas
  return disambiguate (declared ++ body)

/-- How the request body becomes parameters, if there is one. -/
def flavor? (e : Endpoint) : Option BodyFlavor := e.request?.map fun r => r.kind.flavor

/-- What is remarked about a request body. -/
def bodyNotices (e : Endpoint) : List Notice :=
  match e.request? with
  | none => []
  | some r =>
    match r.kind.flavor, r.schema with
    | .multipart, none => [.bodyWithoutSchema e.place r.mime]
    | .urlEncoded, none => [.bodyWithoutSchema e.place r.mime]
    | .unsupported, _ => [.unsupportedBody e.place r.mime]
    | _, _ => []

end Endpoint

end ClientGen
