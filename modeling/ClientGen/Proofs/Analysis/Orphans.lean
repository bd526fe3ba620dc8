import ClientGen.Proofs.Analysis.Mentions
import ClientGen.Proofs.Analysis.Run

/-!
# No key is mentioned in vain

Two walks go through the schemas of a document: one makes types and classes, the
other finds out which keys are needed.  Whatever the one mentions the other has
found, so each key in an operation or a model of an analysis is declared, and its
own model is there or has failed.

* `mem_modelKeys_iff`: which keys get a model;
* `mem_modelKeys_of_dependsOn`: these are closed under dependence;
* `Analyzer.mentions_accounted_for`: nothing else is mentioned.
-/

namespace ClientGen

open Relation

/-- A key in an operation or a model of an analysis. -/
inductive Analysis.Mentions (r : Analysis) : String → Prop
  | operation {api : AnalyzedApi} {op : AnalyzedOperation} {key : String} (hapi : api ∈ r.apis)
      (hop : op ∈ api.operations) (hkey : op.Mentions key) : Mentions r key
  | model {m : Model} {key : String} (hm : m ∈ r.models) (hkey : m.Mentions key) : Mentions r key

/-- A key whose model is there, or is known to have failed. -/
def Analysis.AccountsFor (r : Analysis) (key : String) : Prop :=
  (∃ m ∈ r.models, m.name.text = key) ∨ ∃ f ∈ r.failures, f.Concerns key

namespace Analyzer

variable {a : Analyzer} {key other : String}

/-- References under the paths are followed without a change to the declared schemas. -/
theorem schemas_ofDocument (d : Document) (allow : List String) :
    (ofDocument d allow).value.schemas = d.schemas := rfl

/-! ### The keys that get a model -/

/-- The keys reached are those the endpoints of the groups need. -/
theorem mem_reached_iff :
    key ∈ a.reached ↔ ∃ g ∈ a.groups, ∃ e ∈ a.members g, key ∈ e.discover a.schemas := by
  simp only [reached, NameSet.mem_foldl_union, NameSet.not_mem_empty, false_or, List.mem_flatMap]
  grind

/-- A declared key gets a model if all do, or if it is reached. -/
theorem mem_modelKeys_iff :
    key ∈ a.modelKeys ↔ key ∈ a.schemas.keys ∧ (a.allow = [] ∨ key ∈ a.reached) := by
  rw [modelKeys]
  by_cases hallow : a.allow = []
  · simp [hallow, Schemas.keys]
  · simp [hallow, Schemas.keys]

/-- Reached keys depend on reached keys. -/
theorem mem_reached_of_dependsOn (h : key ∈ a.reached)
    (hpath : ReflTransGen a.schemas.DependsOn key other) : other ∈ a.reached := by
  obtain ⟨g, hg, e, he, hkey⟩ := mem_reached_iff.mp h
  obtain ⟨s, huses, hreach⟩ := Endpoint.mem_discover_iff.mp hkey
  exact mem_reached_iff.mpr
    ⟨g, hg, e, he, Endpoint.mem_discover_iff.mpr ⟨s, huses, hreach.trans hpath⟩⟩

/-- **Closure.**  What a key with a model depends on has a model, too. -/
theorem mem_modelKeys_of_dependsOn (h : key ∈ a.modelKeys)
    (hpath : ReflTransGen a.schemas.DependsOn key other) : other ∈ a.modelKeys := by
  obtain ⟨hdeclared, hselected⟩ := mem_modelKeys_iff.mp h
  refine mem_modelKeys_iff.mpr ⟨?_, ?_⟩
  · cases hpath with
    | refl => exact hdeclared
    | tail _ hstep => exact hstep.declared
  · rcases hselected with hall | hreached
    · exact .inl hall
    · exact .inr (mem_reached_of_dependsOn hreached hpath)

/-! ### What is mentioned -/

/-- What an operation of a group mentions gets a model. -/
theorem mem_modelKeys_of_operation {g : Group} {e : Endpoint} {op : AnalyzedOperation}
    (hg : g ∈ a.groups) (hmember : e ∈ a.members g) (hop : e.analyze a.schemas = .ok op)
    (hkey : op.Mentions key) : key ∈ a.modelKeys := by
  obtain ⟨s, huses, hlead⟩ := Endpoint.uses_of_mentions hop hkey
  have hfound : key ∈ e.discover a.schemas :=
    Endpoint.mem_discover_iff.mpr ⟨s, huses, key, hlead, .refl⟩
  exact mem_modelKeys_iff.mpr
    ⟨hlead.declared, .inr (mem_reached_iff.mpr ⟨g, hg, e, hmember, hfound⟩)⟩

/-- What a complete analysis mentions gets a model. -/
theorem mem_modelKeys_of_mentions (h : a.complete.Mentions key) : key ∈ a.modelKeys := by
  cases h with
  | operation hapi hop hkey =>
      obtain ⟨hg, e, hmember, hop⟩ := exists_member_of_mem_operations hapi hop
      exact mem_modelKeys_of_operation hg hmember hop hkey
  | model hm hkey =>
      obtain ⟨owner, howner, hm⟩ := mem_models_iff.mp hm
      exact mem_modelKeys_of_dependsOn howner (Schemas.reachable_of_mentions hm hkey)

/-- A key that is to get a model gets one, or the failure is on record. -/
theorem accountsFor_of_mem_modelKeys (h : key ∈ a.modelKeys) : a.complete.AccountsFor key := by
  cases hmodel : a.model key with
  | ok m =>
      refine .inl ⟨m, mem_models_iff.mpr ⟨key, h, hmodel⟩, ?_⟩
      rw [Schemas.name_of_model hmodel]
      rfl
  | error f =>
      have hfailure : f ∈ a.failuresOf a.modelKeys :=
        List.mem_filterMap.mpr ⟨key, h, by rw [hmodel]; rfl⟩
      exact .inr ⟨f, List.mem_append_right _ hfailure,
        Schemas.concerns_of_model (mem_modelKeys_iff.mp h).1 hmodel⟩

/-- **No orphans.**  An analysis that goes on in spite of failures gives a result, with
or without tags asked for.  Every key in one of its operations or models is declared,
and the model of the key is there or on record as failed. -/
theorem mentions_accounted_for (d : Document) (allow : List String) :
    ∃ r, ((ofDocument d allow).value.analyze false).value = .ok r ∧
      ∀ key, r.Mentions key → key ∈ d.schemas.map (·.1) ∧ r.AccountsFor key := by
  refine ⟨_, (analyze_value _ false).trans settle_false, fun key hkey => ?_⟩
  have hselected := mem_modelKeys_of_mentions hkey
  constructor
  · rw [← schemas_ofDocument d allow]
    exact (mem_modelKeys_iff.mp hselected).1
  · exact accountsFor_of_mem_modelKeys hselected

end Analyzer

end ClientGen
