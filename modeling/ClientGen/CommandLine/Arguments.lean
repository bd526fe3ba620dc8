import ClientGen.Settings

/-!
# Arguments

What a run is asked to do, and how that is written as arguments.  Each command has a
`Grammar`: its options by name, and what is made of an argument that belongs to no
option.  An option is written by its long name behind two dashes or by its letter
behind one; letters may be written together, and the value of an option may be
attached to its name.  An option must not be given twice unless it collects values,
and behind two dashes alone nothing is an option.  Whoever asks for help gets it,
whatever else would be asked for.
-/

namespace ClientGen.CommandLine

/-- What an option does to what has been asked so far. -/
inductive Effect (σ : Type) where
  | switch (set : σ → σ)
  /-- Takes a value, unless it makes no sense. -/
  | value (set : String → σ → Option σ)

/-- An option; `about` says what it is for, and `valueName` what its value is. -/
structure Flag (σ : Type) where
  long : String
  short : Option Char := none
  repeatable : Bool := false
  valueName : String := ""
  about : String
  effect : Effect σ

/-- What may be given besides options: how it is shown and what it is for. -/
structure Operand (σ : Type) where
  shown : String
  about : String
  set : String → σ → Option σ

/-- What a command is for, its options, and what is made of its other argument. -/
structure Grammar (σ : Type) where
  about : String
  flags : List (Flag σ)
  operand : Option (Operand σ) := none

/-- What is known between two arguments. -/
structure Parsed (σ : Type) where
  asked : σ
  /-- The long names of the options that must not be given again. -/
  seen : List String := []
  hasOperand : Bool := false
  /-- Whether help has been asked for; nothing behind that is looked at. -/
  wantsHelp : Bool := false

namespace Grammar

variable {σ : Type}

/-- The option of a long name. -/
def long? (g : Grammar σ) (name : String) : Option (Flag σ) := g.flags.find? (·.long == name)

/-- The option of a letter. -/
def short? (g : Grammar σ) (c : Char) : Option (Flag σ) :=
  g.flags.find? (·.short == some c)

/-- One more use of an option. -/
def use? (p : Parsed σ) (f : Flag σ) (update : σ → Option σ) : Option (Parsed σ) :=
  if f.long ∈ p.seen then none
  else do
    let asked ← update p.asked
    some { p with asked, seen := if f.repeatable then p.seen else f.long :: p.seen }

/-- The only argument that belongs to no option. -/
def operand? (g : Grammar σ) (p : Parsed σ) (s : String) : Option (Parsed σ) :=
  if p.hasOperand then none
  else do
    let operand ← g.operand
    let asked ← operand.set s p.asked
    some { p with asked, hasOperand := true }

/-- Whether an argument is no option. -/
def isPlain (s : String) : Bool := !s.startsWith "-" || s == "-"

/-- What letters ask for; an option that takes a value and has none attached is given
back with what is known. -/
def letters? (g : Grammar σ) (p : Parsed σ) :
    List Char → Option (Parsed σ × Option (Flag σ × (String → σ → Option σ)))
  | [] => some (p, none)
  | 'h' :: _ => some ({ p with wantsHelp := true }, none)
  | c :: cs => do
    let f ← g.short? c
    match f.effect with
    | .switch set =>
      let p ← use? p f fun a => some (set a)
      letters? g p cs
    | .value set =>
      match cs with
      | [] => some (p, some (f, set))
      | '=' :: v =>
        let p ← use? p f (set (String.ofList v))
        some (p, none)
      | v =>
        let p ← use? p f (set (String.ofList v))
        some (p, none)

/-- A name and the value attached to it, if there is one. -/
def splitValue (s : List Char) : String × Option String :=
  let name := String.ofList (s.takeWhile (· ≠ '='))
  match s.dropWhile (· ≠ '=') with
  | [] => (name, none)
  | _ :: v => (name, some (String.ofList v))

/-- What a long name asks for, like `letters?`. -/
def name? (g : Grammar σ) (p : Parsed σ) (s : List Char) :
    Option (Parsed σ × Option (Flag σ × (String → σ → Option σ))) := do
  let (name, attached) := splitValue s
  if s = "help".toList then return ({ p with wantsHelp := true }, none)
  let f ← g.long? name
  match f.effect, attached with
  | .switch set, none =>
    let p ← use? p f fun a => some (set a)
    some (p, none)
  | .switch _, some _ => none
  | .value set, some v =>
    let p ← use? p f (set v)
    some (p, none)
  | .value set, none => some (p, some (f, set))

/-- What the arguments behind two dashes ask for. -/
def operands? (g : Grammar σ) (p : Parsed σ) : List String → Option (Parsed σ)
  | [] => some p
  | s :: rest => do
    let p ← g.operand? p s
    operands? g p rest

/-- What the arguments ask for, if they make sense. -/
def parse? (g : Grammar σ) (p : Parsed σ) : List String → Option (Parsed σ)
  | [] => some p
  | s :: rest =>
    match s.toList with
    | ['-', '-'] => g.operands? p rest
    | '-' :: c :: cs => do
      let (p, pending) ← if c = '-' then g.name? p cs else g.letters? p (c :: cs)
      match pending with
      | none => if p.wantsHelp then some p else parse? g p rest
      | some (f, set) =>
        match rest with
        | [] => none
        | v :: rest =>
          if isPlain v then
            let p ← use? p f (set v)
            parse? g p rest
          else none
    | _ => do
      let p ← g.operand? p s
      parse? g p rest

end Grammar

/-- What `generate` is asked; what is not asked is left to the project. -/
structure GenerateRequest where
  input : Option String := none
  output : Option String := none
  packageName : Option String := none
  limitApis : List String := []
  callStyle : Option CallStyle := none
  useInlineClass : Bool := false
  useSpecEnumNames : Bool := false
  useCompanionObjects : Bool := false
  allowParseErrors : Bool := false
  failFast : Bool := false
  dryRun : Bool := false
  deriving DecidableEq, Repr

/-- The notations of an inspection. -/
inductive InspectFormat where
  | yaml
  | json
  deriving DecidableEq, Repr

/-- What a run is asked to do. -/
inductive Request where
  /-- Tells the version. -/
  | version
  /-- Tells what there is to ask for, or what a command is for. -/
  | help (command : Option String)
  | generate (request : GenerateRequest)
  | validate (input : String) (allowParseErrors : Bool)
  | inspect (input : String) (format : InspectFormat)
  | init (force : Bool)
  deriving DecidableEq, Repr

/-- The names of the commands. -/
def commandNames : List String := ["generate", "validate", "inspect", "init"]

/-- A path, which must not be empty. -/
def path? (s : String) : Option String := if s.isEmpty then none else some s

/-- The option that asks for more remarks.  There are none that are not made without it. -/
def verboseFlag : Flag σ :=
  { long := "verbose", short := 'v', about := "Log every generation decision",
    effect := .switch id }

/-- An option without a value. -/
def switch (long about : String) (set : σ → σ) : Flag σ := { long, about, effect := .switch set }

/-- The arguments of `generate`. -/
def generateGrammar : Grammar GenerateRequest where
  about := "Generate Kotlin sources from an OpenAPI spec"
  flags :=
    [{ long := "output", short := 'o', valueName := "OUTPUT", about := "Output source root",
       effect := .value fun s r => (path? s).map fun x => { r with output := some x } },
     verboseFlag,
     { long := "package-name", short := 'p', valueName := "PACKAGE_NAME",
       about := "Base package of the generated sources",
       effect := .value fun s r => some { r with packageName := some s } },
     { long := "limit-apis", short := 'l', repeatable := true, valueName := "LIMIT_APIS",
       about := "Only generate these tags (repeatable)",
       effect := .value fun s r => some { r with limitApis := r.limitApis ++ s.splitOn "," } },
     { long := "api-method-syntax-type", valueName := "API_SYNTAX",
       about := "Calling convention of API methods: coroutines or observable",
       effect := .value fun s r =>
         (CallStyle.ofWord? s).map fun x => { r with callStyle := some x } },
     switch "use-inline-class" "Use value classes for named primitive types"
       fun r => { r with useInlineClass := true },
     switch "use-api-spec-enum-names" "Name enum constants as written in the spec"
       fun r => { r with useSpecEnumNames := true },
     switch "use-companion-objects" "Add an empty companion object to every model"
       fun r => { r with useCompanionObjects := true },
     switch "allow-parse-errors" "Accept documents that are not openapi 3.x"
       fun r => { r with allowParseErrors := true },
     switch "fail-fast" "Stop at the first operation that cannot be generated"
       fun r => { r with failFast := true },
     { long := "dry-run", short := 'd', about := "Analyze and list the files without writing them",
       effect := .switch fun r => { r with dryRun := true } }]
  operand := some
    { shown := "[INPUT]", about := "Path to the OpenAPI spec file (YAML or JSON)",
      set := fun s r => (path? s).map fun x => { r with input := some x } }

/-- An input that has to be given. -/
def inputOperand (set : String → σ → σ) : Operand σ where
  shown := "<INPUT>"
  about := "Path to the OpenAPI spec file"
  set s r := (path? s).map fun x => set x r

/-- The arguments of `validate`: the input and whether any version will do. -/
def validateGrammar : Grammar (Option String × Bool) where
  about := "Validate an OpenAPI spec and report operations that cannot be generated"
  flags :=
    [switch "allow-parse-errors" "Accept documents that are not openapi 3.x" fun r => (r.1, true),
     verboseFlag]
  operand := some (inputOperand fun s r => (some s, r.2))

/-- The notation of a word. -/
def inspectFormat? (s : String) : Option InspectFormat :=
  if s = "yaml" then some .yaml else if s = "json" then some .json else none

/-- The arguments of `inspect`: the input and the notation. -/
def inspectGrammar : Grammar (Option String × InspectFormat) where
  about := "Summarize the API groups, operations and models of a spec"
  flags :=
    [{ long := "format", valueName := "FORMAT",
       about := "Output format [default: yaml] [possible values: yaml, json]",
       effect := .value fun s r => (inspectFormat? s).map fun x => (r.1, x) },
     verboseFlag]
  operand := some (inputOperand fun s r => (some s, r.2))

/-- The arguments of `init`: whether a file may be replaced. -/
def initGrammar : Grammar Bool where
  about := "Write a default .kgen.yaml"
  flags := [switch "force" "Overwrite an existing file" fun _ => true, verboseFlag]

/-- What a command with its arguments asks for; help goes before everything else. -/
def Grammar.request? (g : Grammar σ) (name : String) (start : σ) (request : σ → Option Request)
    (args : List String) : Option Request := do
  let p ← g.parse? { asked := start } args
  if p.wantsHelp then some (.help (some name)) else request p.asked

/-- What a command with its arguments asks for. -/
def command? (name : String) (args : List String) : Option Request :=
  if name = "generate" then generateGrammar.request? name {} (some <| .generate ·) args
  else if name = "validate" then
    validateGrammar.request? name (none, false) (fun r => r.1.map (.validate · r.2)) args
  else if name = "inspect" then
    inspectGrammar.request? name (none, .yaml) (fun r => r.1.map (.inspect · r.2)) args
  else if name = "init" then initGrammar.request? name false (some <| .init ·) args
  else if name = "help" then
    match args with
    | [] => some (.help none)
    | [topic] => if commandNames.contains topic then some (.help (some topic)) else none
    | _ => none
  else none

/-- What letters in front of a command ask for: more remarks, once at most, or at once the
version or help. -/
def frontLetters? (verbose : Bool) : List Char → Option (Bool × Option Request)
  | [] => some (verbose, none)
  | 'v' :: cs => if verbose then none else frontLetters? true cs
  | 'V' :: _ => some (verbose, some .version)
  | 'h' :: _ => some (verbose, some (.help none))
  | _ => none

/-- What the arguments of a run ask for, given whether remarks have been asked for. -/
def requestAfter? (verbose : Bool) : List String → Option Request
  | [] => none
  | s :: rest =>
    match s.toList with
    | ['-', '-'] => none
    | '-' :: '-' :: _ =>
      if s = "--version" then some .version
      else if s = "--help" then some (.help none)
      else if s = "--verbose" ∧ !verbose then requestAfter? true rest
      else none
    | '-' :: c :: cs => do
      let (verbose, request) ← frontLetters? verbose (c :: cs)
      match request with
      | some request => some request
      | none => requestAfter? verbose rest
    | _ => command? s rest

/-- What the arguments of a run ask for, if they make sense. -/
def request? (args : List String) : Option Request := requestAfter? false args

end ClientGen.CommandLine
