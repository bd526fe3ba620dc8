import ClientGen.CommandLine.Arguments

/-!
# Help

What is told about the commands and their arguments: a table of names and what they are
for.  The names of a table stand in a column of their own, or on lines of their own if
that column would leave too little room for the widest entry behind it.
-/

namespace ClientGen.CommandLine

/-- A name and what it is for. -/
structure HelpEntry where
  name : String
  about : String
  deriving DecidableEq, Repr

/-- How many columns a line has. -/
def lineWidth : Nat := 100

/-- What is left free of a line in front of and behind a name. -/
def nameMargin : Nat := 8

/-- Blanks. -/
def blanks (n : Nat) : String := String.ofList (List.replicate n ' ')

/-- How wide the names of a table are. -/
def nameWidth (entries : List HelpEntry) : Nat :=
  entries.foldl (fun n e => max n e.name.length) 0

/-- Whether the names of a table take lines of their own: their column takes more than two
fifths of a line, and an entry does not fit behind it. -/
def isTall (entries : List HelpEntry) : Bool :=
  let taken := nameWidth entries + nameMargin
  taken ≤ lineWidth && 2 * lineWidth < 5 * taken &&
    entries.any fun e => lineWidth - taken < e.about.length

/-- A table. -/
def tableLines (entries : List HelpEntry) : List String :=
  let width := nameWidth entries
  if isTall entries then
    entries.flatMap fun e => ["  " ++ e.name, blanks 10 ++ e.about]
  else
    entries.map fun e => "  " ++ e.name ++ blanks (width - e.name.length + 2) ++ e.about

/-- A table under a heading, behind an empty line; nothing if it has no entries. -/
def headed (heading : String) : List HelpEntry → List String
  | [] => []
  | entries => "" :: (heading ++ ":") :: tableLines entries

/-- An option as it is shown. -/
def Flag.shown (f : Flag σ) : String :=
  (match f.short with
    | some c => "-" ++ c.toString ++ ", "
    | none => blanks 4) ++ "--" ++ f.long ++
    (if f.valueName.isEmpty then "" else " <" ++ f.valueName ++ ">")

/-- The option that asks for help. -/
def helpEntry : HelpEntry := ⟨"-h, --help", "Print help"⟩

/-- What is told about a command. -/
def Grammar.help (g : Grammar σ) (name : String) : List String :=
  let operands := g.operand.toList
  [g.about, "", "Usage: kgen " ++ name ++ " [OPTIONS]" ++
      String.join (operands.map fun o => " " ++ o.shown)] ++
    headed "Arguments" (operands.map fun o => ⟨o.shown, o.about⟩) ++
    headed "Options" ((g.flags.map fun f => ⟨f.shown, f.about⟩) ++ [helpEntry])

/-- What is told about all commands. -/
def generalHelp : List String :=
  ["OpenAPI 3.x to Kotlin/Retrofit client generator", "", "Usage: kgen [OPTIONS] <COMMAND>"] ++
    headed "Commands"
      [⟨"generate", generateGrammar.about⟩, ⟨"validate", validateGrammar.about⟩,
       ⟨"inspect", inspectGrammar.about⟩, ⟨"init", initGrammar.about⟩,
       ⟨"completions", "Generate shell completions"⟩,
       ⟨"help", "Print this message or the help of the given subcommand(s)"⟩] ++
    headed "Options"
      [⟨"-v, --verbose", "Log every generation decision"⟩, helpEntry,
       ⟨"-V, --version", "Print version"⟩]

/-- What is told about a command, or about all of them. -/
def helpLines : Option String → List String
  | some "generate" => generateGrammar.help "generate"
  | some "validate" => validateGrammar.help "validate"
  | some "inspect" => inspectGrammar.help "inspect"
  | some "init" => initGrammar.help "init"
  | _ => generalHelp

/-- The help as a text. -/
def helpText (command : Option String) : String :=
  String.join ((helpLines command).map (· ++ "\n"))

end ClientGen.CommandLine
