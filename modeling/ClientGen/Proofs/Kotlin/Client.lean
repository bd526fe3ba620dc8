import ClientGen.Kotlin.Client
import ClientGen.Proofs.Analysis.Run

/-!
# What is generated

Generating adds no failure to those of the analysis: either the first of these ends it
all, or the client is made of the complete analysis.  The options steer what is written
into the files; which tags were asked for and what a failure does is settled before.

* `generate_value`, `generate_eq_settle`: the value of `generate`;
* `completeClient_steering`: the options that no file depends on;
* `generate_false_value`: the client if failures are listed.
-/

namespace ClientGen.Kotlin

/-- What generating gives: the files of the complete analysis, or the first failure if
that is to end it all. -/
theorem generate_value (options : Options) (a : Analyzer) :
    (generate options a).value =
      (settle options.failFast a.complete.failures a.complete).map fun analysis =>
        ⟨(clientFiles options a.document analysis).map (·.render), analysis.failures⟩ := by
  rw [generate, Logged.value_bind, Analyzer.analyze_value]
  cases settle options.failFast a.complete.failures a.complete <;> rfl

/-- The client of the complete analysis of a document. -/
def completeClient (options : Options) (a : Analyzer) : Client :=
  ⟨(clientFiles options a.document a.complete).map (·.render), a.complete.failures⟩

/-- A generation settles on the client as the analysis on its result. -/
theorem generate_eq_settle (options : Options) (a : Analyzer) :
    (generate options a).value =
      settle options.failFast a.complete.failures (completeClient options a) := by
  rw [generate_value, settle_map]
  rfl

/-- No file depends on which tags are asked for, nor on what a failure does. -/
theorem completeClient_steering (options : Options) (allow : List String) (failFast : Bool)
    (a : Analyzer) :
    completeClient { options with limitApis := allow, failFast } a = completeClient options a :=
  rfl

/-- A generation that goes on in spite of failures has the complete client. -/
theorem generate_false_value (options : Options) (allow : List String) (a : Analyzer) :
    (generate { options with limitApis := allow, failFast := false } a).value =
      .ok (completeClient options a) := by
  rw [generate_eq_settle, settle_false, completeClient_steering]

end ClientGen.Kotlin
