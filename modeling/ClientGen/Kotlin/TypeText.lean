import ClientGen.Kotlin.Lexical
import ClientGen.NameSet
import ClientGen.TypeDesc

/-!
# Types written in Kotlin

`writeType` writes a type and notes on the way what the text needs to be
imported: the models and enums it names, from the package the models are
generated into, and the two date classes.  The text does not depend on the
package, nor the imports on what is imported already, so files take the two
apart: `typeText` is the text and `typeImports` are the imports.
-/

namespace ClientGen.Kotlin

/-- The class of dates without a time. -/
def localDate : String := "java.time.LocalDate"

/-- The class of dates with a time and an offset. -/
def offsetDateTime : String := "java.time.OffsetDateTime"

/-- The Kotlin type of a primitive. -/
def primitiveText : Primitive → String
  | .string => "String"
  | .int => "Int"
  | .long => "Long"
  | .float => "Float"
  | .double => "Double"
  | .boolean => "Boolean"
  | .date => "LocalDate"
  | .dateTime => "OffsetDateTime"
  | .binary => "ByteArray"
  | .any => "Any"

/-- What a primitive needs imported. -/
def primitiveImports : Primitive → List String
  | .date => [localDate]
  | .dateTime => [offsetDateTime]
  | _ => []

/-- The qualified name of the type generated for a component schema. -/
def modelImport (modelPackage key : String) : String := modelPackage ++ "." ++ typeName key

/-- Notes that some names are needed. -/
def noteImports (names : List String) : StateM NameSet Unit :=
  modify fun noted => noted.insertAll names

/-- A type as it is written in one pass that notes what is needed. -/
def writeType (modelPackage : String) : TypeDesc → StateM NameSet String
  | .primitive p => do
    noteImports (primitiveImports p)
    return primitiveText p
  | .model key => do
    noteImports [modelImport modelPackage key]
    return typeName key
  | .enum key => do
    noteImports [modelImport modelPackage key]
    return typeName key
  | .array t => do
    let item ← writeType modelPackage t
    return "List<" ++ item ++ ">"
  | .map t => do
    let value ← writeType modelPackage t
    return "Map<String, " ++ value ++ ">"
  | .nullable t => do
    let inner ← writeType modelPackage t
    return inner ++ "?"

/-- A type in Kotlin. -/
def typeText : TypeDesc → String
  | .primitive p => primitiveText p
  | .model key => typeName key
  | .enum key => typeName key
  | .array t => "List<" ++ typeText t ++ ">"
  | .map t => "Map<String, " ++ typeText t ++ ">"
  | .nullable t => typeText t ++ "?"

/-- The names a type needs imported when models live in the given package. -/
def typeImports (modelPackage : String) : TypeDesc → List String
  | .primitive p => primitiveImports p
  | .model key => [modelImport modelPackage key]
  | .enum key => [modelImport modelPackage key]
  | .array t => typeImports modelPackage t
  | .map t => typeImports modelPackage t
  | .nullable t => typeImports modelPackage t

end ClientGen.Kotlin
