import ClientGen.Text.Blank

/-!
# What can be configured

`Options` steers the analysis and the generated code, `Project` adds where a run
reads and writes.
-/

namespace ClientGen

/-- How the functions of an interface hand over their result. -/
inductive CallStyle where
  /-- Suspending functions that return a response. -/
  | coroutines
  /-- Functions that return an observable. -/
  | observable
  deriving DecidableEq, Repr

namespace CallStyle

/-- The word for a style. -/
def word : CallStyle → String
  | coroutines => "coroutines"
  | observable => "observable"

/-- The style of a word, in any case and with blanks around it. -/
def ofWord? (s : String) : Option CallStyle :=
  let w := (Text.trimChars s.toList).map Char.toLower
  if w = "coroutines".toList then some .coroutines
  else if w = "observable".toList then some .observable
  else none

/-- What is reported about a word that names no style. -/
def unknownMessage (s : String) : String :=
  "unknown api syntax `" ++ s ++ "` (expected `coroutines` or `observable`)"

end CallStyle

/-- What the analysis and the generated code depend on, the document aside. -/
structure Options where
  packageName : String := "com.example.client"
  /-- The tags to generate; all if there are none. -/
  limitApis : List String := []
  callStyle : CallStyle := .coroutines
  /-- Value classes rather than other names for primitives. -/
  useInlineClass : Bool := false
  /-- Constants of enums are named as in the document. -/
  useSpecEnumNames : Bool := false
  useCompanionObjects : Bool := false
  /-- The first failure ends the run. -/
  failFast : Bool := false
  deriving DecidableEq, Repr

namespace Options

/-- The package of the interfaces. -/
def apiPackage (o : Options) : String := o.packageName ++ ".api"

/-- The package of the models. -/
def modelPackage (o : Options) : String := o.packageName ++ ".models"

end Options

/-- Where a run reads and writes, and its options. -/
structure Project where
  input : String := "openapi.yaml"
  output : String := "src/main/kotlin"
  /-- Documents of any version are accepted. -/
  allowParseErrors : Bool := false
  /-- Nothing is written. -/
  dryRun : Bool := false
  options : Options := {}
  deriving DecidableEq, Repr

end ClientGen
