import ClientGen.Analysis.Notice
import ClientGen.Document.OfNode
import ClientGen.Json.Read
import ClientGen.Yaml.Read

/-!
# Texts of documents

`load` takes a text in either notation to a document.  Only versions that start
with `3.` are supported; whoever does not mind may have other versions read with a
remark.
-/

namespace ClientGen

/-- Why a text is no document. -/
inductive LoadError where
  | json (fault : Fault)
  | yaml
  | unsupportedVersion (version : String)
  deriving DecidableEq, Repr

/-- The message about a version. -/
def unsupportedMessage (version : String) : String := "unsupported OpenAPI version: " ++ version

/-- A JSON text, given how its content is read. -/
def ofJson (read : Node → Reading α) (text : String) : Except LoadError α :=
  let (node, more) := Json.read text
  match (read node).run' 0 with
  | .error fault => .error (.json fault)
  | .ok a => if more then .error (.json .malformed) else .ok a

/-- A YAML text, given how its content is read. -/
def ofYaml (read : Node → Reading α) (text : String) : Except LoadError α :=
  match Yaml.read? read text with
  | none => .error .yaml
  | some a => .ok a

/-- A text, given how its content is read. -/
def ofText (format : Format) (read : Node → Reading α) (text : String) : Except LoadError α :=
  match format with
  | .json => ofJson read text
  | .yaml => ofYaml read text

/-- Whether a version is supported. -/
def isSupported (version : String) : Bool := version.startsWith "3."

namespace Document

/-- The document of a text; in a lenient reading its version may be any. -/
def load (format : Format) (lenient : Bool) (text : String) : Logged (Except LoadError Document) :=
  match ofText format (Node.document format) text with
  | .error e => pure (.error e)
  | .ok d =>
    if isSupported d.version then pure (.ok d)
    else if lenient then ⟨.ok d, [.unsupportedVersion d.version]⟩
    else pure (.error (.unsupportedVersion d.version))

end Document

end ClientGen
