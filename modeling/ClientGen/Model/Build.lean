import ClientGen.Analysis.Failure
import ClientGen.Model.Flatten
import ClientGen.Naming

/-!
# Models

A `Model` is what is generated for one declared schema: a class for an object, an
enum for an enumeration, and another name for every other type.  Composed schemas
are objects with the properties of all their parts.
-/

namespace ClientGen

/-- A property of a class. -/
structure ModelProperty where
  name : Name
  /-- The key in the data. -/
  wireName : String
  /-- Nullable unless the property is required. -/
  type : TypeDesc
  required : Bool
  description : Option String
  deprecated : Bool
  deriving Repr

/-- A class. -/
structure ObjectModel where
  name : Name
  description : Option String
  properties : List ModelProperty
  deprecated : Bool
  deriving Repr

/-- One literal of an enum. -/
structure EnumValue where
  /-- The literal in the data, without quotes. -/
  wire : String
  name : Name
  deriving Repr

/-- An enum. -/
structure EnumModel where
  name : Name
  description : Option String
  valueType : Primitive
  values : List EnumValue
  deriving Repr

/-- Another name for a type. -/
structure AliasModel where
  name : Name
  description : Option String
  target : TypeDesc
  deriving Repr

/-- What is generated for a declared schema. -/
inductive Model where
  | object (m : ObjectModel)
  | enumeration (m : EnumModel)
  | typeAlias (m : AliasModel)
  deriving Repr

namespace Model

/-- The name of a model. -/
def name : Model → Name
  | object m => m.name
  | enumeration m => m.name
  | typeAlias m => m.name

/-- The description of a model. -/
def description : Model → Option String
  | object m => m.description
  | enumeration m => m.description
  | typeAlias m => m.description

end Model

/-- A literal as the value of an enum. -/
def EnumValue.ofWire (wire : String) : EnumValue := ⟨wire, .ofText wire⟩

/-- A literal in the data, without quotes. -/
def Literal.wire : Literal → String
  | .text s => s
  | other => other.write

/-- The enum of an enumeration; null is no value of it. -/
def enumModel (key : String) (s : Schema) : EnumModel where
  name := .ofText key
  description := s.description
  valueType :=
    match s.literalPrimitive with
    | .any | .binary => .string
    | p => p
  values := (s.literals.filter fun l => !l.isNull).map fun l => .ofWire l.wire

namespace Schemas

/-- A property of the class for a key. -/
def modelProperty (schemas : Schemas) (key : String) (p : FlatProperty) :
    Except Failure ModelProperty :=
  match schemas.typeOf p.schema with
  | .error e => .error (.property key p.name e)
  | .ok t => .ok
    { name := .ofText p.name
      wireName := p.name
      type := t.orNullIf !p.required
      required := p.required
      description := p.schema.description?
      deprecated := (p.schema.item?.bind Schema.deprecated).getD false }

/-- The class of a schema in place. -/
def objectModel (schemas : Schemas) (key : String) (s : Schema) : Except Failure ObjectModel :=
  match schemas.flatten (.inline s) with
  | .error e => .error (.model key e)
  | .ok flat => do
    let properties ← flat.mapM (schemas.modelProperty key)
    return ⟨.ofText key, s.description, properties, s.deprecated.getD false⟩

/-- Another name for the type of a schema. -/
def aliasModel (schemas : Schemas) (key : String) (s : OrRef Schema) : Except Failure AliasModel :=
  match schemas.typeOf s with
  | .error e => .error (.model key e)
  | .ok target => .ok ⟨.ofText key, s.description?, target⟩

/-- The model of a schema under a key. -/
def buildModel (schemas : Schemas) (key : String) : OrRef Schema → Except Failure Model
  | .ref path => (schemas.aliasModel key (.ref path)).map .typeAlias
  | .inline s =>
    match s.shape with
    | .enumeration => .ok (.enumeration (enumModel key s))
    | .object => (schemas.objectModel key s).map .object
    | .composed _ => (schemas.objectModel key s).map .object
    | _ => (schemas.aliasModel key (.inline s)).map .typeAlias

/-- The model of a declared key. -/
def model (schemas : Schemas) (key : String) : Except Failure Model :=
  match schemas.lookup key with
  | none => .error (.reference (.unknownModel key))
  | some s => schemas.buildModel key s

end Schemas

end ClientGen
