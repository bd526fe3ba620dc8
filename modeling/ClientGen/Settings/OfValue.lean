import ClientGen.Data.Fields
import ClientGen.Settings

/-!
# Options from untyped values
-/

namespace ClientGen

/-- The words for call styles. -/
def CallStyle.words : Words CallStyle :=
  [(["coroutines", "Coroutines"], .coroutines), (["observable", "Observable"], .observable)]

namespace Value

/-- The word for a call style. -/
def callStyle : Value → Except Fault CallStyle := wordOf CallStyle.words isUnit

/-- The options that can be set. -/
def optionsFields : List (Field (Except Fault) Value Options) :=
  [.optional "package_name" asText fun x o => { o with packageName := x },
   .optional "limit_apis" (listOf asText) fun x o => { o with limitApis := x },
   .optional "api_syntax" callStyle fun x o => { o with callStyle := x },
   .optional "use_inline_class" asBool fun x o => { o with useInlineClass := x },
   .optional "use_api_spec_enum_names" asBool fun x o => { o with useSpecEnumNames := x },
   .optional "use_companion_objects" asBool fun x o => { o with useCompanionObjects := x },
   .optional "fail_fast" asBool fun x o => { o with failFast := x }]

/-- The options; nothing at all stands for the defaults. -/
def options : Value → Except Fault Options
  | .null => .ok {}
  | v => recordOf optionsFields {} v

end Value

end ClientGen
