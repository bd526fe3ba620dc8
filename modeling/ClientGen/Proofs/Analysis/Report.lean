import ClientGen.Proofs.Analysis.Run

/-!
# What an analysis reports

The groups may share endpoints, and an endpoint is analyzed where the groups first come
by it.  None of that shows in the result: each group has the operations its endpoints
have by themselves, each key the model it has by itself, and every endpoint that fails
is reported once.  The order of the reports is that in which the endpoints are first
met, whatever groups they are met in again.

* `firstFailures_failedAt`: the failures at some positions are in that order;
* `Analyzer.analyze_reports`: all that is in the result of an analysis.
-/

namespace ClientGen

namespace Analyzer

variable {a : Analyzer}

/-- The positions of endpoints as the groups come by them, repeated where groups share
one. -/
def positions (a : Analyzer) : List Nat := a.groups.flatMap (·.members)

/-- There is an endpoint at a position, and it fails. -/
def FailsAt (a : Analyzer) (i : Nat) (f : Failure) : Prop :=
  ∃ e, a.endpoints[i]? = some e ∧ e.analyze a.schemas = .error f

/-- All that fail of some positions, each with its failure and in the order in which they
are first met. -/
structure FirstFailures (a : Analyzer) (met : List Nat) (failed : List (Nat × Failure)) :
    Prop where
  mem_iff : ∀ i f, (i, f) ∈ failed ↔ i ∈ met ∧ a.FailsAt i f
  ordered : failed.Pairwise fun x y => met.idxOf x.1 < met.idxOf y.1

/-- The failure at a position is that of the endpoint there. -/
theorem failureAt?_eq_some_iff {i : Nat} {f : Failure} :
    a.failureAt? i = some f ↔ a.FailsAt i f := by
  simp only [failureAt?, FailsAt, Option.bind_eq_some_iff, error?_eq_some_iff]

/-- The failures at some positions with the positions themselves. -/
def failedAt (a : Analyzer) (met : List Nat) : List (Nat × Failure) :=
  met.eraseDups.filterMap fun i => (a.failureAt? i).map fun f => (i, f)

/-- Without their positions these are the failures that are reported. -/
theorem map_snd_failedAt (met : List Nat) : (a.failedAt met).map (·.2) = a.failuresAt met := by
  rw [failedAt, failuresAt, List.map_filterMap]
  refine List.filterMap_congr fun i _ => ?_
  rw [Option.map_map]
  exact Option.map_id'

/-- Each failing position is listed once, where it is first met. -/
theorem firstFailures_failedAt (met : List Nat) : a.FirstFailures met (a.failedAt met) := by
  constructor
  · intro i f
    simp only [failedAt, List.mem_filterMap, List.mem_eraseDups, Option.map_eq_some_iff,
      failureAt?_eq_some_iff]
    constructor
    · rintro ⟨j, hj, g, hfails, heq⟩
      cases heq
      exact ⟨hj, hfails⟩
    · rintro ⟨hi, hfails⟩
      exact ⟨i, hi, f, hfails, rfl⟩
  · refine List.Pairwise.filterMap _ ?_ (pairwise_idxOf_eraseDups met)
    intro i j hlt x hx y hy
    obtain ⟨f, _, rfl⟩ := Option.map_eq_some_iff.mp hx
    obtain ⟨g, _, rfl⟩ := Option.map_eq_some_iff.mp hy
    exact hlt

/-- A group has the operations its endpoints have by themselves. -/
theorem filterMap_operationAt? (g : Group) :
    g.members.filterMap a.operationAt? =
      (a.members g).filterMap fun e => (e.analyze a.schemas).toOption := by
  rw [members, List.filterMap_filterMap]
  rfl

/-- **The report.**  An analysis that goes on in spite of failures has each group with the
operations of its endpoints that do not fail, and the models of the keys that do not fail.
Its failures are first those of the endpoints in the groups, each reported once and where
it is first met, and then those of the keys. -/
theorem analyze_reports (a : Analyzer) :
    ∃ r failed, (a.analyze false).value = .ok r ∧
      r.apis = a.groups.map (fun g =>
        ⟨g, (a.members g).filterMap fun e => (e.analyze a.schemas).toOption⟩) ∧
      a.FirstFailures a.positions failed ∧
      r.failures = failed.map (·.2) ++ a.modelKeys.filterMap (fun key => error? (a.model key)) ∧
      r.models = a.modelKeys.filterMap fun key => (a.model key).toOption := by
  refine ⟨_, a.failedAt a.positions, analyze_false_value a, ?_, firstFailures_failedAt _, ?_, rfl⟩
  · rw [complete]
    exact List.map_congr_left fun g _ => by rw [filterMap_operationAt?]
  · rw [map_snd_failedAt]
    rfl

end Analyzer

end ClientGen
