import ClientGen.Document.Schema
import ClientGen.TypeDesc

/-!
# The type of a schema

`typeOf` says which type a schema stands for, given the schemas the components
declare.  A reference stands for the model or enum it names and is not followed
further, so the recursion stays within one schema.  A composition has the type of
its base, a union may be anything, and an object whose properties are declared in
place is a map of anything.
-/

namespace ClientGen

/-- The schemas that can be referred to, by their keys. -/
abbrev Schemas := List (String × OrRef Schema)

/-- The primitive of a scalar type with a format. -/
def SchemaType.primitive (t : SchemaType) (format : Option String) : Primitive :=
  match t with
  | .string =>
    if format = some "date" then .date
    else if format = some "date-time" then .dateTime
    else if format = some "binary" then .binary
    else .string
  | .integer => if format = some "int64" then .long else .int
  | .number => if format = some "float" then .float else .double
  | .boolean => .boolean
  | .array => .any
  | .object => .any
  | .null => .any

/-- The primitive of the literals of an enumeration; they are texts if nothing is declared. -/
def Schema.literalPrimitive (s : Schema) : Primitive :=
  (s.primaryType?.getD .string).primitive s.format

namespace Schemas

/-- The key that a path leads to; the schema must be declared. -/
def keyOf (schemas : Schemas) (path : String) : Except ReferenceError String :=
  match refName path "schemas" with
  | .error fault => .error (.invalidFormat fault)
  | .ok key => if (schemas.lookup key).isSome then .ok key else .error (.unknownModel key)

/-- Whether a key names an enumeration. -/
def isEnumeration (schemas : Schemas) (key : String) : Bool :=
  match (schemas.lookup key).map OrRef.shape with
  | some .enumeration => true
  | _ => false

/-- The type of a reference. -/
def typeOfRef (schemas : Schemas) (path : String) : Except ReferenceError TypeDesc :=
  (schemas.keyOf path).map fun key =>
    if schemas.isEnumeration key then .enum key else .model key

/-- The primitive of the literals of a schema in place. -/
def literalType (s : OrRef Schema) : TypeDesc :=
  .primitive ((s.item?.map Schema.literalPrimitive).getD .string)

/-- The type of a schema. -/
def typeOf (schemas : Schemas) (s : OrRef Schema) : Except ReferenceError TypeDesc := do
  let t ← match h : s.shape with
    | .ref path => schemas.typeOfRef path
    | .composed base =>
      have := OrRef.shape_lt (u := s) (t := base) (by simp [h, Shape.inner])
      schemas.typeOf base
    | .union => .ok .any
    | .any => .ok .any
    | .enumeration => .ok (literalType s)
    | .array (some items) =>
      have := OrRef.shape_lt (u := s) (t := items) (by simp [h, Shape.inner])
      (schemas.typeOf items).map .array
    | .array none => .ok (.array .any)
    | .map (some values) =>
      have := OrRef.shape_lt (u := s) (t := values) (by simp [h, Shape.inner])
      (schemas.typeOf values).map .map
    | .map none => .ok (.map .any)
    | .object => .ok (.map .any)
    | .scalar type format => .ok (.primitive (type.primitive format))
  return t.orNullIf s.isNullable
termination_by sizeOf s

/-- The type of a schema that may be missing. -/
def typeOf? (schemas : Schemas) : Option (OrRef Schema) → Except ReferenceError TypeDesc
  | some s => schemas.typeOf s
  | none => .ok .any

end Schemas

end ClientGen
