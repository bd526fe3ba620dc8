import ClientGen.CommandLine.Arguments
import ClientGen.CommandLine.Files
import ClientGen.CommandLine.Help
import ClientGen.Document.Load
import ClientGen.Json.Pretty
import ClientGen.Kotlin.Client
import ClientGen.Settings.OfNode
import ClientGen.Summary
import ClientGen.Yaml.Write

/-!
# Runs

What each command does.  A run reads files and may write some, tells what it does on
the error output line by line, and ends well or in `Trouble`.  A document that can be
read but not generated as a whole is trouble too, after everything else has been
written and every failure has been told.
-/

namespace ClientGen.CommandLine

/-- Why a run ends early: what went wrong, and the causes of it, the nearest first. -/
structure Trouble where
  message : String
  causes : List String := []
  deriving DecidableEq, Repr

namespace Trouble

/-- A cause whose later lines are indented. -/
def causeText (start indent : String) (cause : String) : String :=
  "\n" ++ start ++ ("\n" ++ indent).intercalate (cause.splitOn "\n")

/-- The number in front of one of several causes. -/
def causeNumber (n : Nat) : String :=
  let digits := toString n
  String.ofList (List.replicate (5 - digits.length) ' ') ++ digits ++ ": "

/-- The causes, numbered from `n` on. -/
def numbered (n : Nat) : List String → String
  | [] => ""
  | cause :: causes => causeText (causeNumber n) "       " cause ++ numbered (n + 1) causes

/-- The trouble as it is reported. -/
def text (t : Trouble) : String :=
  "Error: " ++ t.message ++
    (match t.causes with
    | [] => ""
    | [cause] => "\n\nCaused by:" ++ causeText "    " "    " cause
    | causes => "\n\nCaused by:" ++ numbered 0 causes) ++ "\n"

/-- Trouble with a file, while something was tried. -/
def ofFile (tried : String) (fault : FileFault) : Trouble := ⟨tried, [fault.message]⟩

/-- A failure that ends everything. -/
def ofFailure (f : Failure) : Trouble :=
  ⟨f.message, if f.context?.isSome then [f.cause.message] else []⟩

end Trouble

/-- What is wrong with a text that does not follow its notation or says something else
than is expected. -/
def Fault.message : Fault → String
  | .malformed => "malformed text"
  | .truncated => "unexpected end of text"
  | .mismatch => "unexpected value"

/-- The causes behind a document that cannot be loaded. -/
def loadCauses : LoadError → List String
  | .json fault => ["failed to parse JSON: " ++ Fault.message fault, Fault.message fault]
  | .yaml => ["failed to parse YAML: invalid document", "invalid document"]
  | .unsupportedVersion version => [unsupportedMessage version]

/-- What a run has told so far. -/
structure Console where
  output : String := ""
  errors : String := ""
  notices : List Notice := []

/-- Something done in a run. -/
abbrev Run (m : Type → Type) := ExceptT Trouble (StateT Console m)

/-- How a run ended: its code, and what it has told. -/
structure Outcome where
  code : Nat
  output : String := ""
  errors : String := ""
  notices : List Notice := []

section

variable {m : Type → Type} [Monad m]

/-- Tells a line. -/
def say (line : String) : Run m Unit :=
  modify fun c => { c with errors := c.errors ++ line ++ "\n" }

/-- Tells each of some lines. -/
def sayAll (lines : List String) : Run m Unit := lines.forM say

/-- Hands something over. -/
def print (text : String) : Run m Unit := modify fun c => { c with output := c.output ++ text }

/-- A value with the remarks made on the way to it. -/
def noting (x : Logged α) : Run m α := do
  modify fun c => { c with notices := c.notices ++ x.notices }
  return x.value

/-- Does something with a file, or ends in the trouble it gives. -/
def onFile (action : m (Except FileFault α)) (trouble : FileFault → Trouble) : Run m α := do
  match ← (action : m (Except FileFault α)) with
  | .ok a => return a
  | .error fault => throw (trouble fault)

/-- Where a project is described. -/
def projectPath : String := ".kgen.yaml"

/-- The project in which a run takes place. -/
def loadProject (files : Files m) : Run m Project := do
  if ← (files.has projectPath : m Bool) then
    let text ← onFile (files.read projectPath) fun fault =>
      .ofFile ("failed to read config " ++ projectPath ++ ": " ++ fault.message) fault
    match Project.ofText? text with
    | some project => return project
    | none =>
      throw ⟨"failed to parse config " ++ projectPath ++ ": invalid document",
        ["invalid document"]⟩
  else return {}

/-- What is asked goes before what the project says. -/
def GenerateRequest.applyTo (r : GenerateRequest) (p : Project) : Project where
  input := r.input.getD p.input
  output := r.output.getD p.output
  allowParseErrors := p.allowParseErrors || r.allowParseErrors
  dryRun := p.dryRun || r.dryRun
  options :=
    { packageName := r.packageName.getD p.options.packageName
      limitApis := if r.limitApis.isEmpty then p.options.limitApis else r.limitApis
      callStyle := r.callStyle.getD p.options.callStyle
      useInlineClass := p.options.useInlineClass || r.useInlineClass
      useSpecEnumNames := p.options.useSpecEnumNames || r.useSpecEnumNames
      useCompanionObjects := p.options.useCompanionObjects || r.useCompanionObjects
      failFast := p.options.failFast || r.failFast }

/-- The notation of the document at a path. -/
def formatOf (path : String) : Format := if extension? path = some "json" then .json else .yaml

/-- The document at a path. -/
def loadDocument (files : Files m) (path : String) (lenient : Bool) : Run m Document := do
  let text ← onFile (files.read path) (.ofFile ("failed to read " ++ path))
  match ← noting (Document.load (formatOf path) lenient text) with
  | .ok d => return d
  | .error e => throw ⟨"failed to parse " ++ path, loadCauses e⟩

/-- Writes a file below a directory. -/
def writeFile (files : Files m) (base : String) (file : Kotlin.RenderedFile) : Run m Unit := do
  let path := joinPath base file.path
  let parent := (parentPath? path).getD ""
  onFile (files.makeDirectory parent) (.ofFile ("failed to create directory " ++ parent))
  onFile (files.write path file.content) (.ofFile ("failed to write " ++ path))
  say ("  wrote " ++ path)

/-- Tells the failures; they are trouble if there are any. -/
def conclude (failures : List Failure) (verdict : String) : Run m Unit := do
  sayAll (failures.map fun f => "  error: " ++ f.message)
  if !failures.isEmpty then throw ⟨toString failures.length ++ verdict, []⟩

/-- Generates a client. -/
def generate (files : Files m) (request : GenerateRequest) : Run m Unit := do
  let project := request.applyTo (← loadProject files)
  let d ← loadDocument files project.input project.allowParseErrors
  let a ← noting (Analyzer.ofDocument d project.options.limitApis)
  match ← noting (Kotlin.generate project.options a) with
  | .error f => throw (.ofFailure f)
  | .ok client =>
    if project.dryRun then
      say ("Dry run, nothing written to " ++ project.output)
      sayAll (client.files.map fun file => "  would write " ++ joinPath project.output file.path)
    else
      say ("Generating " ++ project.options.packageName ++ " ("
        ++ project.options.callStyle.word ++ ") → " ++ project.output)
      client.files.forM (writeFile files project.output)
      say ("Generated " ++ toString client.files.length ++ " files in " ++ project.output)
    conclude client.failures " operation(s) or model(s) could not be generated"

/-- The analysis of a document in which nothing but failures is left out. -/
def analyzeAll (d : Document) : Run m (Analyzer × Analysis) := do
  let a ← noting (Analyzer.ofDocument d [])
  match ← noting (a.analyze false) with
  | .ok analysis => return (a, analysis)
  | .error f => throw (.ofFailure f)

/-- Tells what a document holds and what of it cannot be generated. -/
def validate (files : Files m) (input : String) (lenient : Bool) : Run m Unit := do
  let d ← loadDocument files input lenient
  say ("Valid OpenAPI " ++ d.version ++ " spec: " ++ d.info.title)
  say ("  Version: " ++ d.info.version)
  say ("  Paths: " ++ toString d.paths.length)
  sayAll (d.components.toList.map fun c => "  Schemas: " ++ toString c.schemas.length)
  let (a, analysis) ← analyzeAll d
  say ("  Operations: " ++ toString a.endpoints.length)
  say ("  APIs: " ++ toString analysis.apis.length)
  say ("  Models: " ++ toString analysis.models.length)
  conclude analysis.failures " failure(s) found"
  say "Validation successful."

/-- Hands over the summary of a document. -/
def inspect (files : Files m) (input : String) (format : InspectFormat) : Run m Unit := do
  let d ← loadDocument files input false
  let (a, analysis) ← analyzeAll d
  let summary := Literal.summary a.document analysis
  print (match format with
    | .yaml => Yaml.write summary
    | .json => summary.pretty ++ "\n")

/-- Describes a project that has the defaults, unless one is described already. -/
def init (files : Files m) (force : Bool) : Run m Unit := do
  if (← (files.has projectPath : m Bool)) && !force then
    throw ⟨projectPath ++ " already exists. Use --force to overwrite.", []⟩
  onFile (files.write projectPath Project.defaultText) fun fault => ⟨fault.message, []⟩
  say ("Created " ++ projectPath)

/-- The line that tells the version. -/
def versionLine : String := "kgen 0.13.0\n"

/-- Does what is asked. -/
def perform (files : Files m) : Request → Run m Unit
  | .version => print versionLine
  | .help command => print (helpText command)
  | .generate request => generate files request
  | .validate input lenient => validate files input lenient
  | .inspect input format => inspect files input format
  | .init force => init files force

/-- How a run ends. -/
def outcome (result : Except Trouble Unit) (c : Console) : Outcome :=
  match result with
  | .ok () => ⟨0, c.output, c.errors, c.notices⟩
  | .error t => ⟨1, c.output, c.errors ++ t.text, c.notices⟩

/-- What is told when the arguments make no sense. -/
def usage : String :=
  "Usage: kgen [-v] <generate|validate|inspect|init> [ARGUMENTS]\n"

/-- A run with some arguments. -/
def run (files : Files m) (args : List String) : m Outcome :=
  match request? args with
  | none => return { code := 2, errors := usage }
  | some request => do
    let (result, console) ← (perform files request).run.run {}
    return outcome result console

end

end ClientGen.CommandLine
