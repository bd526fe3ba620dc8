import ClientGen.Analysis.Basic
import ClientGen.Data.Literal

/-!
# The summary of an analysis

What a document offers and what of it can be generated, as a literal: the groups with
their operations, the models, and the failures.
-/

namespace ClientGen

/-- The word for the kind of a model. -/
def Model.kindWord : Model → String
  | object _ => "object"
  | enumeration _ => "enum"
  | typeAlias _ => "alias"

namespace Literal

/-- A list of texts. -/
def texts (names : List String) : Literal := list (names.map text)

/-- The summary of an operation. -/
def ofOperation (op : AnalyzedOperation) : Literal :=
  record
    [("method", text op.method.text), ("models", texts op.models.toList),
     ("name", text op.name.camel), ("path", text op.path),
     ("security", texts op.securityNames)]

/-- The summary of a group. -/
def ofApi (api : AnalyzedApi) : Literal :=
  record
    [("name", text (api.group.name.pascal ++ "Api")),
     ("operations", list (api.operations.map ofOperation)),
     ("tag", text api.group.name.text)]

/-- The summary of a model. -/
def ofModel (m : Model) : Literal :=
  record [("kind", text m.kindWord), ("name", text m.name.pascal)]

/-- The summary of the analysis of a document. -/
def summary (d : Document) (analysis : Analysis) : Literal :=
  record
    [("apis", list (analysis.apis.map ofApi)),
     ("failures", texts (analysis.failures.map (·.message))),
     ("info", record [("title", text d.info.title), ("version", text d.info.version)]),
     ("models", list (analysis.models.map ofModel))]

end Literal

end ClientGen
