import ClientGen.Settings.OfValue
import ClientGen.Yaml.Read

/-!
# Projects from their description

A project is described by a record.  What belongs to the project itself is read where
it stands; everything else is read to its end first, and the options are taken from
it.  Other members are ignored, and what is not said keeps its default.
-/

namespace ClientGen

/-- A project whose options are still to be read from some entries. -/
structure ProjectDraft where
  project : Project := {}
  entries : List (Value × Value) := []

namespace Node

/-- What a project says about itself. -/
def projectFields : List (Field Reading Node Project) :=
  [.optional "input" asText fun x p => { p with input := x },
   .optional "output" asText fun x p => { p with output := x },
   .optional "allow_parse_errors" asBool fun x p => { p with allowParseErrors := x },
   .optional "dry_run" asBool fun x p => { p with dryRun := x }]

/-- A draft after the members of a record, given the names met before. -/
def draftMembers (seen : List String) (d : ProjectDraft) :
    List (Node × Node) → Reading ProjectDraft
  | [] => return d
  | (key, n) :: members => do
    let k ← key.asText
    match Field.named? projectFields k with
    | some field =>
      if k ∈ seen then Fault.mismatch.raise
      else
        let project ← field.read n d.project
        draftMembers (k :: seen) { d with project } members
    | none =>
      let v ← n.value
      draftMembers seen { d with entries := d.entries ++ [(.text k, v)] } members

/-- The draft of a project. -/
def projectDraft (n : Node) : Reading ProjectDraft := do
  match (← n.meant).bare with
  | record members ending => finish ending (← draftMembers [] {} members)
  | scalar s => if s.isEmpty then return {} else Fault.mismatch.raise
  | unreadable fault _ => fault.raise
  | _ => Fault.mismatch.raise

/-- A project. -/
def project (n : Node) : Reading Project := do
  let d ← n.projectDraft
  let options ← .ofExcept (Value.membersOf Value.optionsFields {} (.mapping d.entries))
  return { d.project with options }

end Node

/-- The project that a text describes. -/
def Project.ofText? (text : String) : Option Project := Yaml.read? Node.project text

/-- The description of a project in which everything has its default, line by line. -/
def Project.defaultLines : List String :=
  ["# kgen configuration",
   "input: openapi.yaml",
   "output: src/main/kotlin",
   "package_name: com.example.client",
   "",
   "# Generate only these tags (and the models they reach). Empty means all.",
   "limit_apis: []",
   "  # - pets",
   "  # - store",
   "",
   "api_syntax: coroutines          # coroutines | observable",
   "use_inline_class: false         # value class instead of typealias for named primitives",
   "use_api_spec_enum_names: false  # enum constants as written in the spec",
   "use_companion_objects: false    # add an empty companion object to models",
   "allow_parse_errors: false       # accept documents that are not openapi 3.x",
   "fail_fast: false                # stop at the first operation that cannot be generated"]

/-- The description of a project in which everything has its default. -/
def Project.defaultText : String := String.join (defaultLines.map fun line => line ++ "\n")

end ClientGen
