import ClientGen.Decimal.Spelling
import ClientGen.Kotlin.Doc
import ClientGen.Kotlin.SourceFile
import ClientGen.Kotlin.TypeText
import ClientGen.Model.Build
import ClientGen.Settings
import ClientGen.Unique

/-!
# Models

Each model becomes a file with one declaration: a data class, an enum class, a
type alias or a value class.  Names of properties and constants are escaped first
and then made unique.
-/

namespace ClientGen.Kotlin

/-- The annotation that names a value in the data. -/
def jsonImport : String := "com.squareup.moshi.Json"

/-- The annotation of classes that are read from data. -/
def jsonClassImport : String := "com.squareup.moshi.JsonClass"

/-- A property as it is written. -/
structure PropertyText where
  name : String
  /-- The key in the data, as a string literal. -/
  wireName : String
  type : String
  optional : Bool
  deprecated : Bool
  doc : List String
  deriving DecidableEq, Repr

/-- A constant of an enum as it is written. -/
structure ConstantText where
  name : String
  /-- The literal in the data, as a string literal. -/
  wire : String
  /-- The value of the constant. -/
  literal : String
  deriving DecidableEq, Repr

/-- The lines of a description. -/
def docLines (description : Option String) : List String :=
  (({} : Doc).paragraph description).render

/-- The names of the properties of a class. -/
def propertyNames (m : ObjectModel) : List String :=
  uniqueNames "_" (m.properties.map fun p => escapeIdentifier p.name.camel)

/-- A property under its name. -/
def propertyText (p : ModelProperty) (name : String) : PropertyText :=
  ⟨name, stringLiteral p.wireName, typeText p.type, !p.required, p.deprecated,
    docLines p.description⟩

/-- The properties of a class. -/
def objectProperties (m : ObjectModel) : List PropertyText :=
  List.zipWith propertyText m.properties (propertyNames m)

/-- The type of the values of an enum; dates and bytes are texts. -/
def enumValueType : Primitive → Primitive
  | .date => .string
  | .dateTime => .string
  | .binary => .string
  | .any => .string
  | p => p

/-- Whether a number has a point or an exponent. -/
def hasFraction (cs : List Char) : Bool := cs.any fun c => c == '.' || c == 'e' || c == 'E'

/-- A literal of the type of the values of an enum.  What the type cannot hold is a text. -/
def enumLiteral (wire : String) (type : Primitive) : String :=
  if Decimal.isSpelling wire.toList then
    match type with
    | .int => wire
    | .long => wire ++ "L"
    | .float => wire ++ "f"
    | .double => if hasFraction wire.toList then wire else wire ++ ".0"
    | _ => stringLiteral wire
  else if type = .boolean ∧ (wire = "true" ∨ wire = "false") then wire
  else stringLiteral wire

/-- The name of a constant in capitals. -/
def constantName (screaming : String) : String :=
  let trimmed := screaming.toList.dropWhile (· = '_')
  if trimmed.head?.any Char.isDigit then "VALUE_" ++ String.ofList trimmed
  else escapeIdentifier (String.ofList trimmed)

/-- The names of the constants of an enum. -/
def constantNames (options : Options) (m : EnumModel) : List String :=
  uniqueNames "_" (m.values.map fun v =>
    if options.useSpecEnumNames then escapeIdentifier v.wire else constantName v.name.screaming)

/-- The constants of an enum. -/
def enumConstants (options : Options) (m : EnumModel) : List ConstantText :=
  List.zipWith
    (fun v name => ⟨name, stringLiteral v.wire, enumLiteral v.wire (enumValueType m.valueType)⟩)
    m.values (constantNames options m)

/-- The line with a property itself. -/
def PropertyText.line (p : PropertyText) : String :=
  "val " ++ p.name ++ ": " ++ p.type ++ (if p.optional then " = null" else "")

/-- The lines of a property of a class. -/
def PropertyText.lines (p : PropertyText) (mark : String) : List String :=
  (p.doc ++ (if p.deprecated then ["@Deprecated(\"This property is deprecated.\")"] else [])
    ++ ["@Json(name = " ++ p.wireName ++ ")", p.line ++ mark]).map fun line => "    " ++ line

/-- The lines of the properties of a class. -/
def propertyLines : List PropertyText → List String
  | [] => []
  | [p] => p.lines ""
  | p :: rest => p.lines "," ++ propertyLines rest

/-- The lines of a class. -/
def objectLines (options : Options) (name : String) (m : ObjectModel) : List String :=
  let properties := objectProperties m
  let opening := if options.useCompanionObjects then " \x7b" else ""
  docLines m.description
    ++ (if m.deprecated then ["@Deprecated(\"This model is deprecated.\")"] else [])
    ++ (if properties.isEmpty then ["class " ++ name ++ opening]
      else
        ["@JsonClass(generateAdapter = true)", "data class " ++ name ++ "("]
          ++ propertyLines properties ++ [")" ++ opening])
    ++ (if options.useCompanionObjects then ["    companion object", "\x7d"] else [])

/-- The lines of the constants of an enum. -/
def constantLines : List ConstantText → List String
  | [] => ["    ;"]
  | [c] => ["    @Json(name = " ++ c.wire ++ ")", "    " ++ c.name ++ "(" ++ c.literal ++ ");"]
  | c :: d :: rest =>
    ["    @Json(name = " ++ c.wire ++ ")", "    " ++ c.name ++ "(" ++ c.literal ++ "),"]
      ++ constantLines (d :: rest)

/-- The lines of an enum. -/
def enumLines (options : Options) (name : String) (m : EnumModel) : List String :=
  docLines m.description
    ++ ["@JsonClass(generateAdapter = false)",
      "enum class " ++ name ++ "(val value: " ++ primitiveText (enumValueType m.valueType)
        ++ ") \x7b"]
    ++ constantLines (enumConstants options m)
    ++ ["", "    override fun toString(): String = value.toString()"]
    ++ (if options.useCompanionObjects then ["", "    companion object"] else [])
    ++ ["\x7d"]

/-- Whether a type is a primitive that is worth a class of its own. -/
def isNamedPrimitive (t : TypeDesc) : Bool :=
  match t.nonNull with
  | .primitive .any => false
  | .primitive _ => true
  | _ => false

/-- The lines of another name for a type. -/
def aliasLines (options : Options) (name : String) (m : AliasModel) : List String :=
  docLines m.description
    ++ if options.useInlineClass && isNamedPrimitive m.target then
      ["@JvmInline", "value class " ++ name ++ "(val value: " ++ typeText m.target ++ ")"]
    else ["typealias " ++ name ++ " = " ++ typeText m.target]

/-- The lines of a model. -/
def modelLines (options : Options) (name : String) : Model → List String
  | .object m => objectLines options name m
  | .enumeration m => enumLines options name m
  | .typeAlias m => aliasLines options name m

/-- What a model needs imported. -/
def modelImports (options : Options) : Model → List String
  | .object m =>
    (m.properties.flatMap fun p => typeImports options.modelPackage p.type)
      ++ if m.properties.isEmpty then [] else [jsonImport, jsonClassImport]
  | .enumeration _ => [jsonImport, jsonClassImport]
  | .typeAlias m => typeImports options.modelPackage m.target

/-- The file of a model. -/
def modelFile (options : Options) (m : Model) : SourceFile :=
  let name := typeName m.name.text
  { package := options.modelPackage
    fileName := name
    imports := .ofList (modelImports options m)
    declarations := [Text.trimEnd ("\n".intercalate (modelLines options name m))] }

end ClientGen.Kotlin
