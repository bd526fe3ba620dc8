import ClientGen.Kotlin.ApiFile
import ClientGen.Kotlin.HolderFile
import ClientGen.Kotlin.InterceptorFile
import ClientGen.Kotlin.ModelFile

/-!
# The generated client

All files of a client: one for each group with an operation, one for each model,
and the two that support them.
-/

namespace ClientGen.Kotlin

/-- The files of a client, and what could not be generated. -/
structure Client where
  files : List RenderedFile
  failures : List Failure
  deriving Repr

/-- Whether nothing is missing. -/
def Client.isComplete (c : Client) : Bool := c.failures.isEmpty

/-- The groups that have something to write. -/
def writtenApis (analysis : Analysis) : List AnalyzedApi :=
  analysis.apis.filter fun api => !api.operations.isEmpty

/-- The files of a client before they are written out. -/
def clientFiles (options : Options) (d : Document) (analysis : Analysis) : List SourceFile :=
  (writtenApis analysis).map (apiFile options) ++ analysis.models.map (modelFile options)
    ++ [holderFile options d, interceptorFile options d]

/-- What is remarked about the groups. -/
def groupNotices (apis : List AnalyzedApi) : List Notice :=
  apis.flatMap fun api =>
    if api.operations.isEmpty then [.emptyInterface (interfaceName api)] else apiNotices api

/-- The schemes that endpoints ask for and the document does not declare. -/
def undeclaredSchemes (a : Analyzer) : NameSet :=
  let declared := a.document.securitySchemes.map (·.1)
  .ofList ((a.endpoints.flatMap (·.securityNames)).filter fun name => !declared.contains name)

/-- What is remarked about a client. -/
def clientNotices (a : Analyzer) (analysis : Analysis) : List Notice :=
  groupNotices analysis.apis ++ (undeclaredSchemes a).toList.map .undeclaredScheme
    ++ schemeNotices a.document

/-- The client of an analyzed document, or the first failure if that is to end it all. -/
def generate (options : Options) (a : Analyzer) : Logged (Except Failure Client) := do
  match ← a.analyze options.failFast with
  | .error f => pure (.error f)
  | .ok analysis =>
    ⟨.ok ⟨(clientFiles options a.document analysis).map (·.render), analysis.failures⟩,
      clientNotices a analysis⟩

end ClientGen.Kotlin
