import ClientGen.Proofs.Kotlin.Client

/-!
# The first failure

An analysis or a client can be had in two ways: the first failure ends the run, or all
failures are listed with what could be made in spite of them.  Both ways come by the
same failures in the same order, so the one gives the head of the list that the other
gives, and where the list is empty the two results are the same.

* `Analyzer.analyze_true_eq_error_iff`, `Analyzer.analyze_true_eq_ok_iff`: the two ways
  to analyze a document;
* `generate_failFast`: the two ways to analyze and to generate, side by side.
-/

namespace ClientGen

namespace Analyzer

variable {a : Analyzer}

/-- An analysis that is to end with a failure ends with the first there is. -/
theorem analyze_true_eq_error_iff {f : Failure} :
    (a.analyze true).value = .error f ↔ a.complete.failures.head? = some f := by
  rw [analyze_value, settle_true_eq_error_iff]

/-- It is complete exactly if there is none. -/
theorem analyze_true_eq_ok_iff :
    (a.analyze true).value = .ok a.complete ↔ a.complete.failures = [] := by
  rw [analyze_value, settle_true_eq_ok_iff]

end Analyzer

namespace Kotlin

/-- **The first failure.**  With failures listed there are an analysis and a client, with
the same failures.  A run that the first failure is to end fails exactly with the head of
that list, and if the list is empty it gives the same analysis and the same client. -/
theorem generate_failFast (a : Analyzer) (options : Options) :
    ∃ r client, (a.analyze false).value = .ok r ∧
      (generate { options with failFast := false } a).value = .ok client ∧
      client.failures = r.failures ∧
      (∀ f, (a.analyze true).value = .error f ↔ r.failures.head? = some f) ∧
      ((a.analyze true).value = .ok r ↔ r.failures = []) ∧
      (∀ f, (generate { options with failFast := true } a).value = .error f ↔
        r.failures.head? = some f) ∧
      ((generate { options with failFast := true } a).value = .ok client ↔
        r.failures = []) := by
  have hended : (generate { options with failFast := true } a).value =
      settle true a.complete.failures (completeClient options a) := by
    rw [generate_eq_settle, completeClient_steering options options.limitApis]
  refine ⟨a.complete, completeClient options a, Analyzer.analyze_false_value a,
    generate_false_value options options.limitApis a, rfl,
    fun f => Analyzer.analyze_true_eq_error_iff, Analyzer.analyze_true_eq_ok_iff, ?_, ?_⟩
  · intro f
    rw [hended, settle_true_eq_error_iff]
  · rw [hended, settle_true_eq_ok_iff]

end Kotlin

end ClientGen
