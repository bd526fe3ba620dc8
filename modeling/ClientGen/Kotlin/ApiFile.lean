import ClientGen.Analysis.Basic
import ClientGen.Kotlin.Doc
import ClientGen.Kotlin.SourceFile
import ClientGen.Kotlin.TypeText
import ClientGen.Settings

/-!
# Interfaces

Each group becomes a file with one interface.  For every operation the interface
has an abstract function, whose annotations say how the call is sent, and its
companion object has a function for callers that hands its parameters on.

Annotations are values of `FunctionMarker` and `ParameterMarker`; they
become text in one place each, and so do the imports they need.  Of two operations
with one name only the first is written.
-/

namespace ClientGen.Kotlin

/-- The package of the annotations that describe calls. -/
def httpPackage : String := "retrofit2.http"

/-- An annotation of an interface function. -/
inductive FunctionMarker where
  | deprecated
  /-- The method and the relative path. -/
  | verb (method : Method) (path : String)
  /-- The same for methods and bodies that have no annotation of their own. -/
  | http (method : Method) (path : String) (hasBody : Bool)
  /-- A marker for each security scheme. -/
  | headers (schemes : List String)
  | multipart
  | formUrlEncoded
  deriving DecidableEq, Repr

/-- The annotation of a deprecated operation. -/
def deprecatedOperation : String := "@Deprecated(\"This operation is deprecated.\")"

namespace FunctionMarker

/-- The marker of a security scheme. -/
def authMarker (scheme : String) : String :=
  "\"$\x7bApiAuthInterceptor.AUTH_HEADER_NAME\x7d: " ++ escapeString scheme ++ "\""

/-- The annotation as it is written. -/
def text : FunctionMarker → String
  | deprecated => deprecatedOperation
  | verb method path => "@" ++ method.text ++ "(" ++ stringLiteral path ++ ")"
  | http method path hasBody =>
    "@HTTP(method = \"" ++ method.text ++ "\", path = " ++ stringLiteral path
      ++ (if hasBody then ", hasBody = true)" else ")")
  | headers schemes => "@Headers(" ++ ", ".intercalate (schemes.map authMarker) ++ ")"
  | multipart => "@Multipart"
  | formUrlEncoded => "@FormUrlEncoded"

/-- What an annotation needs imported. -/
def imports (package : String) : FunctionMarker → List String
  | deprecated => []
  | verb method _ => [httpPackage ++ "." ++ method.text]
  | http _ _ _ => [httpPackage ++ ".HTTP"]
  | headers _ => [httpPackage ++ ".Headers", package ++ ".ApiAuthInterceptor"]
  | multipart => [httpPackage ++ ".Multipart"]
  | formUrlEncoded => [httpPackage ++ ".FormUrlEncoded"]

end FunctionMarker

/-- An annotation of a parameter of an interface function. -/
inductive ParameterMarker where
  | path (wireName : String)
  | query (wireName : String)
  | header (wireName : String)
  | body
  /-- A part; one that is a file brings its own name. -/
  | part (wireName : Option String)
  | field (wireName : String)
  deriving DecidableEq, Repr

namespace ParameterMarker

/-- The name of the annotation. -/
def word : ParameterMarker → String
  | path _ => "Path"
  | query _ => "Query"
  | header _ => "Header"
  | body => "Body"
  | part _ => "Part"
  | field _ => "Field"

/-- The name that is sent. -/
def argument? : ParameterMarker → Option String
  | path wireName => some wireName
  | query wireName => some wireName
  | header wireName => some wireName
  | body => none
  | part wireName => wireName
  | field wireName => some wireName

/-- The annotation as it is written. -/
def text (a : ParameterMarker) : String :=
  match a.argument? with
  | some name => "@" ++ a.word ++ "(" ++ stringLiteral name ++ ")"
  | none => "@" ++ a.word

/-- What an annotation needs imported. -/
def imports (a : ParameterMarker) : List String := [httpPackage ++ "." ++ a.word]

end ParameterMarker

/-- The path of an operation relative to the base of the interface. -/
def relativePath (path : String) : String :=
  match path.toList.dropWhile (· = '/') with
  | [] => "."
  | cs => String.ofList cs

/-- The annotation with the method and path of an operation. -/
def callMarker (op : AnalyzedOperation) : FunctionMarker :=
  let path := relativePath op.path
  match op.method with
  | .delete => if op.hasBody then .http .delete path true else .verb .delete path
  | .trace => .http .trace path false
  | method => .verb method path

/-- The annotation with the markers of the security schemes. -/
def authMarkers? (op : AnalyzedOperation) : Option FunctionMarker :=
  if op.securityNames.isEmpty then none else some (.headers op.securityNames)

/-- Whether a parameter has a placement. -/
def hasPlacement (op : AnalyzedOperation) (placement : Placement) : Bool :=
  op.parameters.any fun p => p.interface.placement == placement

/-- The annotation of a form, if it has any fields. -/
def formMarker? (op : AnalyzedOperation) : Option FunctionMarker :=
  match op.flavor with
  | some .multipart => if hasPlacement op .part then some .multipart else none
  | some .urlEncoded => if hasPlacement op .field then some .formUrlEncoded else none
  | _ => none

/-- All annotations of an interface function. -/
def functionMarkers (op : AnalyzedOperation) : List FunctionMarker :=
  (if op.deprecated then [.deprecated] else [])
    ++ [callMarker op] ++ (authMarkers? op).toList ++ (formMarker? op).toList

/-- The annotation of a parameter. -/
def parameterMarker (p : InterfaceParameter) : ParameterMarker :=
  match p.placement with
  | .path => .path p.wireName
  | .query => .query p.wireName
  | .header => .header p.wireName
  | .cookie => .header "Cookie"
  | .body => .body
  | .part => .part (if p.type.isBinary then none else some p.wireName)
  | .field => .field p.wireName

/-- Whether a parameter is a file in a multipart body. -/
def isFilePart (p : InterfaceParameter) : Bool := p.placement == .part && p.type.isBinary

/-- The type of a parameter. -/
def parameterType (p : InterfaceParameter) : String :=
  if isFilePart p then
    if p.type.isNullable then "MultipartBody.Part?" else "MultipartBody.Part"
  else typeText p.type

/-- What the type of a parameter needs imported. -/
def parameterTypeImports (modelPackage : String) (p : InterfaceParameter) : List String :=
  if isFilePart p then ["okhttp3.MultipartBody"] else typeImports modelPackage p.type

/-- The type of the response. -/
def resultType : Returns → String
  | .json t => typeText t
  | .binary => "ResponseBody"
  | .empty => "Unit"

/-- What the type of the response needs imported. -/
def resultImports (modelPackage : String) : Returns → List String
  | .json t => typeImports modelPackage t
  | .binary => ["okhttp3.ResponseBody"]
  | .empty => []

/-- A type in the envelope of a call style. -/
def enveloped (style : CallStyle) (inner : String) : String :=
  match style with
  | .coroutines => "Response<" ++ inner ++ ">"
  | .observable => "Observable<" ++ inner ++ ">"

/-- The class of the envelope of a call style. -/
def envelopeImport : CallStyle → String
  | .coroutines => "retrofit2.Response"
  | .observable => "io.reactivex.Observable"

/-- What stands in front of the functions of a call style. -/
def modifiers : CallStyle → String
  | .coroutines => "suspend "
  | .observable => ""

/-- A parameter of an interface function as it is written. -/
structure InterfaceParameterText where
  marker : ParameterMarker
  name : String
  type : String
  deriving DecidableEq, Repr

/-- The parameter on its line. -/
def InterfaceParameterText.line (p : InterfaceParameterText) : String :=
  p.marker.text ++ " " ++ p.name ++ ": " ++ p.type

/-- A parameter of a function for callers as it is written. -/
structure CallerParameterText where
  name : String
  type : String
  optional : Bool
  deriving DecidableEq, Repr

/-- The parameter on its line. -/
def CallerParameterText.line (p : CallerParameterText) : String :=
  p.name ++ ": " ++ p.type ++ (if p.optional then " = null" else "")

/-- The two functions of an operation as they are written. -/
structure FunctionText where
  /-- The name for callers. -/
  name : String
  /-- The name in the interface. -/
  interfaceName : String
  modifiers : String
  markers : List FunctionMarker
  interfaceParameters : List InterfaceParameterText
  callerParameters : List CallerParameterText
  /-- What callers hand on: each parameter under its own name. -/
  arguments : List (String × String)
  returnType : String
  doc : List String
  deprecated : Bool
  deriving DecidableEq, Repr

/-- A parameter of the interface. -/
def interfaceParameterText (p : InterfaceParameter) : InterfaceParameterText :=
  ⟨parameterMarker p, escapeIdentifier p.name, parameterType p⟩

/-- A parameter for callers; its type is the one in the interface. -/
def callerParameterText (p : ParameterPair) : CallerParameterText :=
  ⟨escapeIdentifier p.caller.name, parameterType p.interface, p.caller.defaultsToAbsent⟩

/-- What is said about an operation and its parameters. -/
def operationDoc (op : AnalyzedOperation) : Doc :=
  let start := ({} : Doc).paragraph (op.description.or op.summary)
  let params := op.callerParameters.foldl
    (fun d p => d.tag "param" (some (escapeIdentifier p.name)) p.description) start
  params.tag "return" none op.responseDescription

/-- The functions of an operation. -/
def functionText (options : Options) (op : AnalyzedOperation) : FunctionText :=
  let callers := op.parameters.map callerParameterText
  { name := escapeIdentifier op.name.camel
    interfaceName := "__" ++ op.name.camel
    modifiers := modifiers options.callStyle
    markers := functionMarkers op
    interfaceParameters := op.interfaceParameters.map interfaceParameterText
    callerParameters := callers
    arguments := callers.map fun p => (p.name, p.name)
    returnType := enveloped options.callStyle (resultType op.returns)
    doc := (operationDoc op).render
    deprecated := op.deprecated }

/-- What the functions of an operation need imported. -/
def functionImports (options : Options) (op : AnalyzedOperation) : List String :=
  (functionMarkers op).flatMap (·.imports options.packageName)
    ++ (op.parameters.flatMap fun p =>
      (parameterMarker p.interface).imports
        ++ parameterTypeImports options.modelPackage p.interface)
    ++ resultImports options.modelPackage op.returns ++ [envelopeImport options.callStyle]

/-- Lines with a comma behind each but the last. -/
def commaLines : List String → List String
  | [] => []
  | [line] => [line]
  | line :: rest => (line ++ ",") :: commaLines rest

/-- Lines moved to the right. -/
def indented (width : Nat) (lines : List String) : List String :=
  lines.map fun line => "".pushn ' ' width ++ line

namespace FunctionText

/-- The head of a function up to its parameters. -/
def head (f : FunctionText) (name : String) : String := f.modifiers ++ "fun " ++ name ++ "("

/-- The lines of the interface function. -/
def interfaceLines (f : FunctionText) : List String :=
  f.markers.map (·.text)
    ++ if f.interfaceParameters.isEmpty then
      [f.head f.interfaceName ++ "): " ++ f.returnType]
    else
      [f.head f.interfaceName]
        ++ indented 4 (commaLines (f.interfaceParameters.map (·.line)))
        ++ ["): " ++ f.returnType]

/-- The call that a function for callers hands its parameters to. -/
def delegate (f : FunctionText) (interface : String) : String :=
  "): " ++ f.returnType ++ " = ApiHolder.getApi<" ++ interface ++ ">()." ++ f.interfaceName ++ "("

/-- The lines of the function for callers. -/
def callerLines (f : FunctionText) (interface : String) : List String :=
  f.doc ++ (if f.deprecated then [deprecatedOperation] else [])
    ++ if f.callerParameters.isEmpty then
      [f.head f.name ++ f.delegate interface ++ ")"]
    else
      [f.head f.name] ++ indented 4 (commaLines (f.callerParameters.map (·.line)))
        ++ [f.delegate interface]
        ++ indented 4 (commaLines (f.arguments.map fun (name, value) => name ++ " = " ++ value))
        ++ [")"]

end FunctionText

/-- The lines of an interface with its companion object. -/
def interfaceLines (name : String) (functions : List FunctionText) : List String :=
  ["@JvmSuppressWildcards", "interface " ++ name ++ " \x7b"]
    ++ functions.flatMap (fun f => "" :: indented 4 f.interfaceLines)
    ++ ["", "    companion object \x7b"]
    ++ List.intercalate [""] (functions.map fun f => indented 8 (f.callerLines name))
    ++ ["    \x7d", "\x7d"]

/-- A declaration of several lines. -/
def declaration (lines : List String) : String := Text.trimEnd ("\n".intercalate lines)

/-- The operations that are written, being the first of their names, given the names
written before. -/
def firstNamed (seen : List String) : List AnalyzedOperation → List AnalyzedOperation
  | [] => []
  | op :: rest =>
    if op.name.camel ∈ seen then firstNamed seen rest
    else op :: firstNamed (op.name.camel :: seen) rest

/-- The operations that are not written, because their names were given before. -/
def repeatedNamed (seen : List String) : List AnalyzedOperation → List AnalyzedOperation
  | [] => []
  | op :: rest =>
    if op.name.camel ∈ seen then op :: repeatedNamed seen rest
    else repeatedNamed (op.name.camel :: seen) rest

/-- The name of the interface of a group. -/
def interfaceName (api : AnalyzedApi) : String := api.group.name.pascal ++ "Api"

/-- The file of a group. -/
def apiFile (options : Options) (api : AnalyzedApi) : SourceFile :=
  let name := interfaceName api
  let operations := firstNamed [] api.operations
  { package := options.apiPackage
    fileName := name
    imports := .ofList
      (operations.flatMap (functionImports options) ++ [options.packageName ++ ".ApiHolder"])
    declarations := [declaration (interfaceLines name (operations.map (functionText options)))] }

/-- What is remarked about the file of a group. -/
def apiNotices (api : AnalyzedApi) : List Notice :=
  (repeatedNamed [] api.operations).map fun op =>
    .repeatedOperation (interfaceName api) ⟨some op.method, op.path⟩ op.name.camel

end ClientGen.Kotlin
