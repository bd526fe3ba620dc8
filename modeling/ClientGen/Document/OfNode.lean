import ClientGen.Document.OfValue

/-!
# Documents from what was read

A document is read in the order of its text, except for what may be a reference,
which is read to its end first.
-/

namespace ClientGen

/-- The names of what security schemes are based on. -/
def SchemeKind.words : Words SchemeKind :=
  [(["apiKey"], .apiKey), (["http"], .http), (["oauth2"], .oauth2),
   (["openIdConnect"], .openIdConnect), (["mutualTLS"], .mutualTls)]

/-- The names of the locations of keys. -/
def KeyLocation.words : Words KeyLocation :=
  [(["query"], .query), (["header"], .header), (["cookie"], .cookie)]

namespace Node

/-- The fields of what a document says about itself. -/
def infoFields : List (Field Reading Node Info) :=
  [.mandatory "title" asText fun x i => { i with title := x },
   .optional "description" (opt asText) fun x i => { i with description := x },
   .mandatory "version" asText fun x i => { i with version := x }]

/-- What a document says about itself. -/
def info (format : Format) : Node → Reading Info :=
  recordOf format infoFields { title := "", version := "" }

/-- The fields of a server. -/
def serverFields : List (Field Reading Node Server) :=
  [.mandatory "url" asText fun x s => { s with url := x },
   .optional "description" (opt asText) fun x s => { s with description := x }]

/-- A server. -/
def server (format : Format) : Node → Reading Server :=
  recordOf format serverFields { url := "" }

/-- The fields of a tag. -/
def tagFields : List (Field Reading Node Tag) :=
  [.mandatory "name" asText fun x t => { t with name := x },
   .optional "description" (opt asText) fun x t => { t with description := x }]

/-- A tag. -/
def tag (format : Format) : Node → Reading Tag :=
  recordOf format tagFields { name := "" }

/-- A requirement. -/
def requirement : Node → Reading Requirement := mapOf (listOf asText)

/-- The requirements, if any are given. -/
def requirements : Node → Reading (Option (List Requirement)) := opt (listOf requirement)

/-- Responses by their status codes. -/
def responses : Node → Reading (List (String × OrRef Response)) := mapOf (whole Value.response)

/-- The fields of an operation. -/
def operationFields : List (Field Reading Node Operation) :=
  [.optional "operationId" (opt asText) fun x o => { o with operationId := x },
   .optional "summary" (opt asText) fun x o => { o with summary := x },
   .optional "description" (opt asText) fun x o => { o with description := x },
   .optional "tags" (listOf asText) fun x o => { o with tags := x },
   .optional "parameters" (listOf (whole Value.parameter)) fun x o => { o with parameters := x },
   .optional "requestBody" (opt (whole Value.requestBody)) fun x o => { o with requestBody := x },
   .optional "responses" responses fun x o => { o with responses := x },
   .optional "deprecated" (opt asBool) fun x o => { o with deprecated := x },
   .optional "security" requirements fun x o => { o with security := x }]

/-- An operation. -/
def operation (format : Format) : Node → Reading Operation :=
  recordOf format operationFields {}

/-- The place of a method in the order of all methods. -/
def methodIndex (m : Method) : Nat := Method.all.idxOf m

/-- Puts an operation at its place in the order of all methods. -/
def putOperation (m : Method) (op : Operation) :
    List (Method × Operation) → List (Method × Operation)
  | [] => [(m, op)]
  | (k, o) :: rest =>
    if methodIndex m < methodIndex k then (m, op) :: (k, o) :: rest
    else (k, o) :: putOperation m op rest

/-- The field of the operation for a method. -/
def methodField (format : Format) (m : Method) : Field Reading Node PathItem :=
  .optional m.key (opt (operation format)) fun x item =>
    match x with
    | some op => { item with operations := putOperation m op item.operations }
    | none => item

/-- The fields of a path. -/
def pathFields (format : Format) : List (Field Reading Node PathItem) :=
  [.optional "summary" (opt asText) fun x p => { p with summary := x },
   .optional "description" (opt asText) fun x p => { p with description := x },
   .optional "parameters" (listOf (whole Value.parameter)) fun x p => { p with parameters := x }]
    ++ Method.all.map (methodField format)

/-- A path. -/
def pathItem (format : Format) : Node → Reading PathItem :=
  recordOf format (pathFields format) {}

/-- The fields of a security scheme. -/
def securitySchemeFields (format : Format) : List (Field Reading Node SecurityScheme) :=
  [.mandatory "type" (wordOf format SchemeKind.words) fun x s => { s with kind := x },
   .optional "description" (opt asText) fun x s => { s with description := x },
   .optional "name" (opt asText) fun x s => { s with name := x },
   .optional "in" (opt (wordOf format KeyLocation.words)) fun x s => { s with location := x },
   .optional "scheme" (opt asText) fun x s => { s with scheme := x }]

/-- A security scheme. -/
def securityScheme (format : Format) : Node → Reading SecurityScheme :=
  recordOf format (securitySchemeFields format) { kind := .http }

/-- The fields of the components. -/
def componentsFields (format : Format) : List (Field Reading Node Components) :=
  [.optional "schemas" (mapOf (whole Value.schema)) fun x c => { c with schemas := x },
   .optional "responses" responses fun x c => { c with responses := x },
   .optional "parameters" (mapOf (whole Value.parameter)) fun x c => { c with parameters := x },
   .optional "requestBodies" (mapOf (whole Value.requestBody)) fun x c =>
     { c with requestBodies := x },
   .optional "securitySchemes" (mapOf (securityScheme format)) fun x c =>
     { c with securitySchemes := x }]

/-- The components. -/
def components (format : Format) : Node → Reading Components :=
  recordOf format (componentsFields format) {}

/-- The fields of a document. -/
def documentFields (format : Format) : List (Field Reading Node Document) :=
  [.mandatory "openapi" asText fun x d => { d with version := x },
   .mandatory "info" (info format) fun x d => { d with info := x },
   .optional "servers" (listOf (server format)) fun x d => { d with servers := x },
   .optional "paths" (mapOf (pathItem format)) fun x d => { d with paths := x },
   .optional "components" (opt (components format)) fun x d => { d with components := x },
   .optional "tags" (listOf (tag format)) fun x d => { d with tags := x },
   .optional "security" requirements fun x d => { d with security := x }]

/-- A document. -/
def document (format : Format) : Node → Reading Document :=
  recordOf format (documentFields format) { version := "", info := { title := "", version := "" } }

/-- The fields of a representation of a body that cannot be a reference. -/
def mediaTypeFields : List (Field Reading Node MediaType) :=
  [.optional "schema" (opt (whole Value.schema)) fun x _ => ⟨x⟩]

/-- The fields of a request body that cannot be a reference. -/
def requestBodyFields (format : Format) : List (Field Reading Node RequestBody) :=
  [.optional "description" (opt asText) fun x b => { b with description := x },
   .optional "content" (mapOf (recordOf format mediaTypeFields {}))
     fun x b => { b with content := x },
   .optional "required" asBool fun x b => { b with required := x }]

/-- A request body that cannot be a reference. -/
def requestBody (format : Format) : Node → Reading RequestBody :=
  recordOf format (requestBodyFields format) {}

end Node

end ClientGen
