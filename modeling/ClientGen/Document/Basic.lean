import ClientGen.Document.Schema

/-!
# Documents that describe an interface

A `Document` names the paths of an interface and the operations on them, with
their parameters, bodies and responses, and the components they refer to.  Only
what the generated client depends on is kept.  Maps are lists of pairs in the
order of the document.
-/

namespace ClientGen

/-- A method of HTTP. -/
inductive Method where
  | get
  | post
  | put
  | delete
  | patch
  | options
  | head
  | trace
  deriving DecidableEq, Repr

namespace Method

/-- The method in capitals. -/
def text : Method → String
  | get => "GET"
  | post => "POST"
  | put => "PUT"
  | delete => "DELETE"
  | patch => "PATCH"
  | options => "OPTIONS"
  | head => "HEAD"
  | trace => "TRACE"

/-- The method in small letters, as it is written in a document. -/
def key : Method → String
  | get => "get"
  | post => "post"
  | put => "put"
  | delete => "delete"
  | patch => "patch"
  | options => "options"
  | head => "head"
  | trace => "trace"

/-- All methods, in the order in which the operations of a path are listed. -/
def all : List Method := [get, post, put, delete, patch, options, head, trace]

end Method

/-- What a document says about itself. -/
structure Info where
  title : String
  description : Option String := none
  version : String
  deriving DecidableEq, Repr

/-- A tag with its description. -/
structure Tag where
  name : String
  description : Option String := none
  deriving DecidableEq, Repr

/-- A place where the interface is served. -/
structure Server where
  url : String
  description : Option String := none
  deriving DecidableEq, Repr

/-- Where a parameter is sent. -/
inductive Location where
  | query
  | header
  | path
  | cookie
  deriving DecidableEq, Repr

/-- A parameter of an operation. -/
structure Parameter where
  name : String
  location : Location
  description : Option String := none
  required : Bool := false
  deprecated : Option Bool := none
  schema : Option (OrRef Schema) := none

namespace Parameter

/-- Whether the parameter must be given; one that is part of the path always must. -/
def isRequired (p : Parameter) : Bool := p.required || p.location == .path

/-- Whether two parameters are the same one: they have the same name and location. -/
def sameSlot (p q : Parameter) : Bool := p.name == q.name && p.location == q.location

end Parameter

/-- One representation of a body. -/
structure MediaType where
  schema : Option (OrRef Schema) := none

/-- The representations of a body by their media types. -/
abbrev Content := List (String × MediaType)

/-- The body of a request. -/
structure RequestBody where
  description : Option String := none
  content : Content := []
  required : Bool := false

/-- A response of an operation. -/
structure Response where
  description : Option String := none
  content : Content := []

/-- What a security scheme is based on. -/
inductive SchemeKind where
  | apiKey
  | http
  | oauth2
  | openIdConnect
  | mutualTls
  deriving DecidableEq, Repr

/-- Where a key is sent. -/
inductive KeyLocation where
  | query
  | header
  | cookie
  deriving DecidableEq, Repr

/-- A way for callers to identify themselves. -/
structure SecurityScheme where
  kind : SchemeKind
  description : Option String := none
  /-- The name of the header, query parameter or cookie of a key. -/
  name : Option String := none
  location : Option KeyLocation := none
  /-- The scheme of HTTP authentication, such as `bearer`. -/
  scheme : Option String := none
  deriving DecidableEq, Repr

/-- The schemes that have to be met together, with their scopes. -/
abbrev Requirement := List (String × List String)

/-- An operation on a path. -/
structure Operation where
  operationId : Option String := none
  summary : Option String := none
  description : Option String := none
  tags : List String := []
  parameters : List (OrRef Parameter) := []
  requestBody : Option (OrRef RequestBody) := none
  responses : List (String × OrRef Response) := []
  deprecated : Option Bool := none
  /-- The alternative requirements; nothing where those of the document hold. -/
  security : Option (List Requirement) := none

/-- The operations on a path, and what they have in common. -/
structure PathItem where
  summary : Option String := none
  description : Option String := none
  parameters : List (OrRef Parameter) := []
  /-- The operations in the order of `Method.all`. -/
  operations : List (Method × Operation) := []

/-- What a document declares for reference. -/
structure Components where
  schemas : List (String × OrRef Schema) := []
  responses : List (String × OrRef Response) := []
  parameters : List (String × OrRef Parameter) := []
  requestBodies : List (String × OrRef RequestBody) := []
  securitySchemes : List (String × SecurityScheme) := []

/-- The description of an interface. -/
structure Document where
  version : String
  info : Info
  servers : List Server := []
  paths : List (String × PathItem) := []
  components : Option Components := none
  tags : List Tag := []
  security : Option (List Requirement) := none

namespace Document

/-- The schemas the document declares. -/
def schemas (d : Document) : List (String × OrRef Schema) := (d.components.getD {}).schemas

/-- The security schemes the document declares. -/
def securitySchemes (d : Document) : List (String × SecurityScheme) :=
  (d.components.getD {}).securitySchemes

end Document

end ClientGen
