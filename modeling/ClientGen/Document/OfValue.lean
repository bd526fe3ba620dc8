import ClientGen.Data.Fields
import ClientGen.Document.Basic

/-!
# Components of documents from untyped values

Schemas, parameters, bodies and responses may be given by reference, and whether
they are is only known when they have been read to their end.  Here is what they
mean then.
-/

namespace ClientGen

/-- The names of the types of schemas. -/
def SchemaType.words : Words SchemaType :=
  [(["string"], .string), (["number"], .number), (["integer"], .integer),
   (["boolean"], .boolean), (["array"], .array), (["object"], .object), (["null"], .null)]

/-- The names of the locations of parameters. -/
def Location.words : Words Location :=
  [(["query"], .query), (["header"], .header), (["path"], .path), (["cookie"], .cookie)]

namespace Value

/-- The path of a reference. -/
def refField : Field (Except Fault) Value String := .mandatory "$ref" asText fun path _ => path

/-- A reference, or else an item. -/
def orRef (read : Value → Except Fault α) (v : Value) : Except Fault (OrRef α) :=
  match membersOf [refField] "" v with
  | .ok path => .ok (.ref path)
  | .error _ => (read v).map .inline

/-- One of several words, with null under it if it is a key. -/
def word (words : Words α) : Value → Except Fault α := wordOf words isNull

/-- One type, or a list of types. -/
def typeSet (v : Value) : Except Fault TypeSet :=
  match word SchemaType.words v with
  | .ok t => .ok (.single t)
  | .error _ => (listOf (word SchemaType.words) v).map .several

/-- What undeclared properties may be, given how schemas are read. -/
def additional (read : Value → Except Fault (OrRef Schema)) :
    Value → Except Fault (Additional (OrRef Schema))
  | .bool b => .ok (.flag b)
  | v => (read v).map .schema

/-- A literal. -/
def literal (v : Value) : Except Fault Literal := expect v.literal?

/-- The fields of a schema, given how the schemas inside are read. -/
def schemaFields (read : Value → Except Fault (OrRef Schema)) :
    List (Field (Except Fault) Value Schema) :=
  [.optional "type" (opt typeSet) fun x s => { s with type := x },
   .optional "format" (opt asText) fun x s => { s with format := x },
   .optional "title" (opt asText) fun x s => { s with title := x },
   .optional "description" (opt asText) fun x s => { s with description := x },
   .optional "nullable" (opt asBool) fun x s => { s with nullable := x },
   .optional "properties" (mapOf read) fun x s => { s with properties := x },
   .optional "required" (listOf asText) fun x s => { s with required := x },
   .optional "additionalProperties" (opt (additional read)) fun x s => { s with additional := x },
   .optional "items" (opt read) fun x s => { s with items := x },
   .optional "allOf" (listOf read) fun x s => { s with allOf := x },
   .optional "oneOf" (listOf read) fun x s => { s with oneOf := x },
   .optional "anyOf" (listOf read) fun x s => { s with anyOf := x },
   .optional "enum" (listOf literal) fun x s => { s with literals := x },
   .optional "deprecated" (opt asBool) fun x s => { s with deprecated := x }]

/-- A schema in a value that is nested no deeper than `fuel`. -/
def schemaWithin : Nat → Value → Except Fault (OrRef Schema)
  | 0, _ => .error .mismatch
  | fuel + 1, v => orRef (recordOf (schemaFields (schemaWithin fuel)) {}) v

/-- A schema or a reference to one. -/
def schema (v : Value) : Except Fault (OrRef Schema) := schemaWithin (v.depth + 1) v

/-- The fields of a representation. -/
def mediaTypeFields : List (Field (Except Fault) Value MediaType) :=
  [.optional "schema" (opt schema) fun x _ => ⟨x⟩]

/-- The representations of a body. -/
def content (v : Value) : Except Fault Content := mapOf (recordOf mediaTypeFields {}) v

/-- The fields of a parameter. -/
def parameterFields : List (Field (Except Fault) Value Parameter) :=
  [.mandatory "name" asText fun x p => { p with name := x },
   .mandatory "in" (word Location.words) fun x p => { p with location := x },
   .optional "description" (opt asText) fun x p => { p with description := x },
   .optional "required" asBool fun x p => { p with required := x },
   .optional "deprecated" (opt asBool) fun x p => { p with deprecated := x },
   .optional "schema" (opt schema) fun x p => { p with schema := x }]

/-- A parameter or a reference to one. -/
def parameter (v : Value) : Except Fault (OrRef Parameter) :=
  orRef (recordOf parameterFields { name := "", location := .query }) v

/-- The fields of a request body. -/
def requestBodyFields : List (Field (Except Fault) Value RequestBody) :=
  [.optional "description" (opt asText) fun x b => { b with description := x },
   .optional "content" content fun x b => { b with content := x },
   .optional "required" asBool fun x b => { b with required := x }]

/-- A request body or a reference to one. -/
def requestBody (v : Value) : Except Fault (OrRef RequestBody) :=
  orRef (recordOf requestBodyFields {}) v

/-- The fields of a response. -/
def responseFields : List (Field (Except Fault) Value Response) :=
  [.optional "description" (opt asText) fun x r => { r with description := x },
   .optional "content" content fun x r => { r with content := x }]

/-- A response or a reference to one. -/
def response (v : Value) : Except Fault (OrRef Response) := orRef (recordOf responseFields {}) v

end Value

end ClientGen
