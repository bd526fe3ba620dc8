import ClientGen.Analysis.Basic
import ClientGen.Proofs.Outcome
import ClientGen.Proofs.Repetition

/-!
# A run of the analysis

The analysis goes through the groups position by position and remembers what it
found out at each.  What is remembered never differs from what would be found out
again (`Progress.Records`), so the groups get the operations they would get one by
one, and a position that is met again adds no failure.

* `analyzeMember_spec`: one position keeps the records right;
* `analyzeMembers_spec`, `analyzeGroups_spec`, `analyzeModels_spec`: so do many;
* `analyze_value`: the answer is `complete`, or its first failure if the analysis is
  to end there;
* `exists_member_of_mem_operations`, `mem_models_iff`: where the operations and the
  models of `complete` come from.
-/

namespace ClientGen

/-! ### Steps that may fail and make remarks -/

/-- The value of one step after another, the remarks aside. -/
theorem value_run_bind {ε α β : Type} (x : ExceptT ε Logged α) (f : α → ExceptT ε Logged β) :
    (x >>= f).run.value = (x.run.value >>= fun a => (f a).run.value) := by
  change (x.run >>= ExceptT.bindCont f).value = _
  rw [Logged.value_bind]
  cases x.run.value <;> rfl

theorem value_run_pure {ε α : Type} (x : α) :
    (pure x : ExceptT ε Logged α).run.value = .ok x := rfl

/-- A result that was reached in spite of some failures, or the first of them if that
is to end it all. -/
def settle {α : Type} (failFast : Bool) (failures : List Failure) (result : α) :
    Except Failure α :=
  match failFast, failures with
  | true, f :: _ => .error f
  | _, _ => .ok result

section Settle

variable {α β : Type} {failFast : Bool} {failures later : List Failure} {result : α}

/-- Failures do not end an analysis that is to go on. -/
theorem settle_false : settle false failures result = .ok result := by
  cases failures <;> rfl

/-- An analysis that is to end with a failure ends with the first. -/
theorem settle_true_eq_error_iff {f : Failure} :
    settle true failures result = .error f ↔ failures.head? = some f := by
  cases failures <;> simp [settle]

/-- It has a result exactly if there is no failure. -/
theorem settle_true_eq_ok_iff :
    settle true failures result = .ok result ↔ failures = [] := by
  cases failures <;> simp [settle]

/-- What is done with the result does not change how it is settled. -/
theorem settle_map (f : α → β) :
    (settle failFast failures result).map f = settle failFast failures (f result) := by
  cases failFast with
  | false => rw [settle_false, settle_false]; rfl
  | true => cases failures <;> rfl

/-- Without a failure there is nothing to end it. -/
theorem settle_clean (h : failFast = true → failures = []) :
    settle failFast failures result = .ok result := by
  cases failFast with
  | false => exact settle_false
  | true => rw [h rfl, settle]; intros; contradiction

/-- There is no other result than the one that is settled on. -/
theorem eq_of_settle_eq_ok {r : α} (h : settle failFast failures result = .ok r) : r = result := by
  unfold settle at h
  split at h
  · cases h
  · exact (Except.ok.inj h).symm

/-- What comes later is settled with the failures there were before. -/
theorem settle_bind {f : α → Except Failure β} {b : β}
    (h : (failFast = true → failures = []) →
      f result = settle failFast (failures ++ later) b) :
    (settle failFast failures result >>= f) = settle failFast (failures ++ later) b := by
  by_cases hclean : failFast = true → failures = []
  · rw [settle_clean hclean]
    exact h hclean
  · obtain ⟨rfl, hfailures⟩ := Classical.not_imp.mp hclean
    cases failures with
    | nil => exact (hfailures rfl).elim
    | cons first rest => rfl

/-- A step that adds no failure. -/
theorem settle_bind_ok {f : α → Except Failure β} {b : β} (h : f result = .ok b) :
    (settle failFast failures result >>= f) = settle failFast failures b := by
  cases failFast with
  | false => rw [settle_false, settle_false]; exact h
  | true =>
      cases failures with
      | nil => exact h
      | cons first rest => rfl

end Settle

namespace Analyzer

variable {a : Analyzer} {failFast : Bool} {p : Progress} {met : List Nat}

/-! ### What there is to find out -/

/-- The operation of the endpoint at a position, if there is one and it does not fail. -/
def operationAt? (a : Analyzer) (i : Nat) : Option AnalyzedOperation :=
  a.endpoints[i]?.bind fun e => (e.analyze a.schemas).toOption

/-- The failure of the endpoint at a position. -/
def failureAt? (a : Analyzer) (i : Nat) : Option Failure :=
  a.endpoints[i]?.bind fun e => error? (e.analyze a.schemas)

/-- The failures at some positions, each where it is first met. -/
def failuresAt (a : Analyzer) (positions : List Nat) : List Failure :=
  positions.eraseDups.filterMap a.failureAt?

/-- The models of the keys whose models do not fail. -/
def modelsOf (a : Analyzer) (keys : List String) : List Model :=
  keys.filterMap fun key => (a.model key).toOption

/-- The failures of the keys whose models fail. -/
def failuresOf (a : Analyzer) (keys : List String) : List Failure :=
  keys.filterMap fun key => error? (a.model key)

/-- All operations and models that do not fail, and all failures. -/
def complete (a : Analyzer) : Analysis where
  apis := a.groups.map fun g => ⟨g, g.members.filterMap a.operationAt?⟩
  models := a.modelsOf a.modelKeys
  failures := a.failuresAt (a.groups.flatMap (·.members)) ++ a.failuresOf a.modelKeys

/-- What is known after some positions were met is what there is to find out at them. -/
structure Records (a : Analyzer) (p : Progress) (met : List Nat) : Prop where
  known : ∀ i, p.known.lookup i =
    if i ∈ met then a.endpoints[i]?.map fun e => (e.analyze a.schemas).toOption else none
  failures : p.failures = a.failuresAt met

theorem records_nil : a.Records {} [] := by
  constructor
  · intro i
    rfl
  · rfl

/-! ### Positions -/

/-- Only a position that is met for the first time can add a failure. -/
theorem failuresAt_append (met : List Nat) (i : Nat) :
    a.failuresAt (met ++ [i]) =
      a.failuresAt met ++ if i ∈ met then [] else (a.failureAt? i).toList := by
  rw [failuresAt, eraseDups_concat, List.filterMap_append, failuresAt]
  by_cases hi : i ∈ met
  · simp [hi]
  · cases hfailure : a.failureAt? i <;> simp [hi, hfailure]

/-- Nothing changes if a position is met again. -/
theorem Records.again (h : a.Records p met) {i : Nat} (hi : i ∈ met) :
    a.Records p (met ++ [i]) := by
  constructor
  · intro j
    rw [h.known j]
    by_cases hj : j = i
    · simp [hj, hi]
    · simp [hj]
  · rw [failuresAt_append, if_pos hi, List.append_nil]
    exact h.failures

/-- Nothing changes if there is no endpoint at a position. -/
theorem Records.missing (h : a.Records p met) {i : Nat} (hi : a.endpoints[i]? = none) :
    a.Records p (met ++ [i]) := by
  constructor
  · intro j
    rw [h.known j]
    by_cases hj : j = i
    · simp [hj, hi]
    · simp [hj]
  · rw [failuresAt_append, h.failures]
    simp [failureAt?, hi]

/-- The answer at a new position is put in front, its failure at the end. -/
theorem Records.fresh (h : a.Records p met) {i : Nat} {e : Endpoint} (hi : i ∉ met)
    (he : a.endpoints[i]? = some e) :
    a.Records ⟨(i, (e.analyze a.schemas).toOption) :: p.known,
      p.failures ++ (error? (e.analyze a.schemas)).toList⟩ (met ++ [i]) := by
  constructor
  · intro j
    by_cases hj : j = i
    · simp [hj, he]
    · have hbeq : (j == i) = false := by simpa using hj
      rw [List.lookup_cons, hbeq]
      simpa [hj] using h.known j
  · rw [failuresAt_append, if_neg hi, h.failures, failureAt?, he]
    rfl

/-- **One position.**  It yields its operation, whether or not it was met before. -/
theorem analyzeMember_spec (h : a.Records p met) (hclean : failFast = true → p.failures = [])
    (i : Nat) :
    ∃ p', a.Records p' (met ++ [i]) ∧ (a.analyzeMember failFast p i).run.value =
      settle failFast p'.failures (a.operationAt? i, p') := by
  have hlookup := h.known i
  cases he : a.endpoints[i]? with
  | none =>
      rw [he, Option.map_none, ite_self] at hlookup
      refine ⟨p, h.missing he, ?_⟩
      rw [settle_clean hclean, analyzeMember, hlookup, he, operationAt?, he]
      rfl
  | some e =>
      rw [he] at hlookup
      -- A position that was met is answered from what is known, any other one anew.
      by_cases hi : i ∈ met
      · rw [if_pos hi] at hlookup
        refine ⟨p, h.again hi, ?_⟩
        rw [settle_clean hclean, analyzeMember, hlookup, operationAt?, he]
        rfl
      · rw [if_neg hi] at hlookup
        refine ⟨_, h.fresh hi he, ?_⟩
        rw [analyzeMember, hlookup, he, operationAt?, he]
        change (a.analyzeNew failFast p i e).value = _
        rw [analyzeNew]
        cases hresult : e.analyze a.schemas with
        | ok op =>
            rw [settle_clean (by simpa [error?] using hclean)]
            simp [error?, hresult, Except.toOption]
        | error f =>
            cases failFast with
            | false => simp [settle_false, error?, hresult, Except.toOption]
            | true => simp [settle, error?, hclean rfl]

/-! ### One step after another -/

/-- Steps after which some positions have been met and which give a result, or end it
all with the first failure. -/
def Yields {β : Type} (a : Analyzer) (failFast : Bool)
    (x : ExceptT Failure Logged (β × Progress)) (met : List Nat) (result : β) : Prop :=
  ∃ p, a.Records p met ∧ x.run.value = settle failFast p.failures (result, p)

/-- Whatever was met before, any positions can be met after it. -/
theorem Records.extend (h : a.Records p met) (positions : List Nat) :
    ∃ p', a.Records p' (met ++ positions) := by
  induction positions generalizing p met with
  | nil => exact ⟨p, by rwa [List.append_nil]⟩
  | cons i rest ih =>
      have hfalse : false = true → p.failures = [] := fun h => Bool.noConfusion h
      obtain ⟨next, hnext, _⟩ := analyzeMember_spec h hfalse i
      obtain ⟨p', hp'⟩ := ih hnext
      exact ⟨p', by rwa [← List.append_cons] at hp'⟩

/-- Failures stay where they are when more is met. -/
theorem Records.exists_later {p' : Progress} {positions : List Nat} (h : a.Records p met)
    (h' : a.Records p' (met ++ positions)) : ∃ later, p'.failures = p.failures ++ later :=
  ⟨_, by rw [h'.failures, h.failures, failuresAt, failuresAt, List.eraseDups_append,
    List.filterMap_append]⟩

/-- A step that only returns what it has keeps the records. -/
theorem Records.yields_pure {β : Type} {result : β} (h : a.Records p met)
    (hclean : failFast = true → p.failures = []) :
    a.Yields failFast (pure (result, p)) met result :=
  ⟨p, h, by rw [settle_clean hclean, value_run_pure]⟩

/-- What comes after a step may rely on what the step has met, and if failures end it
all, on there being none. -/
theorem Yields.bind {β γ : Type} {x : ExceptT Failure Logged (β × Progress)}
    {f : β × Progress → ExceptT Failure Logged (γ × Progress)} {more : List Nat} {b : β} {c : γ}
    (hx : a.Yields failFast x met b)
    (hf : ∀ p, a.Records p met → (failFast = true → p.failures = []) →
      a.Yields failFast (f (b, p)) (met ++ more) c) :
    a.Yields failFast (x >>= f) (met ++ more) c := by
  obtain ⟨p, hp, hvalue⟩ := hx
  -- If a failure has ended it all, nothing more is met, but the failures it would add are
  -- behind the first one in any case.
  have hnext : ∃ p', a.Records p' (met ++ more) ∧ ((failFast = true → p.failures = []) →
      (f (b, p)).run.value = settle failFast p'.failures (c, p')) := by
    by_cases hclean : failFast = true → p.failures = []
    · obtain ⟨p', hp', hresult⟩ := hf p hp hclean
      exact ⟨p', hp', fun _ => hresult⟩
    · obtain ⟨p', hp'⟩ := hp.extend more
      exact ⟨p', hp', fun h => (hclean h).elim⟩
  obtain ⟨p', hp', hresult⟩ := hnext
  obtain ⟨later, hlater⟩ := hp.exists_later hp'
  refine ⟨p', hp', ?_⟩
  rw [value_run_bind, hvalue, hlater]
  apply settle_bind
  rw [← hlater]
  exact hresult

/-! ### The whole run -/

/-- **Positions.**  Many positions yield the operations they yield one by one. -/
theorem analyzeMembers_spec (h : a.Records p met) (hclean : failFast = true → p.failures = [])
    (positions : List Nat) :
    a.Yields failFast (a.analyzeMembers failFast p positions) (met ++ positions)
      (positions.filterMap a.operationAt?) := by
  induction positions generalizing p met with
  | nil =>
      rw [List.append_nil]
      exact h.yields_pure hclean
  | cons i rest ih =>
      have hoperations : (i :: rest).filterMap a.operationAt? =
          (a.operationAt? i).toList ++ rest.filterMap a.operationAt? := by
        cases hi : a.operationAt? i <;> simp [hi]
      rw [analyzeMembers, List.append_cons, hoperations]
      refine Yields.bind (analyzeMember_spec h hclean i) fun next hnext hgo => ?_
      rw [← List.append_nil (_ ++ rest)]
      refine Yields.bind (ih hnext hgo) fun last hlast hdone => ?_
      rw [List.append_nil]
      exact hlast.yields_pure hdone

/-- **Groups.**  Each group gets the operations it would get by itself. -/
theorem analyzeGroups_spec (h : a.Records p met) (hclean : failFast = true → p.failures = [])
    (groups : List Group) :
    a.Yields failFast (a.analyzeGroups failFast p groups)
      (met ++ groups.flatMap (·.members))
      (groups.map fun g => ⟨g, g.members.filterMap a.operationAt?⟩) := by
  induction groups generalizing p met with
  | nil =>
      rw [List.flatMap_nil, List.append_nil]
      exact h.yields_pure hclean
  | cons g rest ih =>
      rw [analyzeGroups, List.flatMap_cons, ← List.append_assoc]
      refine Yields.bind (analyzeMembers_spec h hclean g.members) fun next hnext hgo => ?_
      rw [← List.append_nil (_ ++ rest.flatMap _)]
      refine Yields.bind (ih hnext hgo) fun last hlast hdone => ?_
      rw [List.append_nil]
      exact hlast.yields_pure hdone

/-- **Models.**  The models that do not fail, and the failures behind those there were. -/
theorem analyzeModels_spec {failures : List Failure}
    (hclean : failFast = true → failures = []) (keys : List String) :
    (a.analyzeModels failFast failures keys).run.value =
      settle failFast (failures ++ a.failuresOf keys)
        (a.modelsOf keys, failures ++ a.failuresOf keys) := by
  induction keys generalizing failures with
  | nil =>
      have hnone : failures ++ a.failuresOf [] = failures := List.append_nil _
      rw [hnone, settle_clean hclean]
      rfl
  | cons key rest ih =>
      rw [analyzeModels]
      cases hmodel : a.model key with
      | ok m =>
          have hmodels : a.modelsOf (key :: rest) = m :: a.modelsOf rest := by
            simp [modelsOf, hmodel, Except.toOption]
          have hfailures : a.failuresOf (key :: rest) = a.failuresOf rest := by
            simp [failuresOf, hmodel, error?]
          rw [hmodels, hfailures]
          simp only [value_run_bind, ih hclean]
          exact settle_bind_ok rfl
      | error f =>
          have hmodels : a.modelsOf (key :: rest) = a.modelsOf rest := by
            simp [modelsOf, hmodel, Except.toOption]
          have hfailures : a.failuresOf (key :: rest) = f :: a.failuresOf rest := by
            simp [failuresOf, hmodel, error?]
          rw [hmodels, hfailures, List.append_cons]
          cases failFast with
          | false =>
              have hfalse : false = true → failures ++ [f] = [] := fun h => Bool.noConfusion h
              exact ih hfalse
          | true =>
              rw [hclean rfl]
              rfl

/-- **The analysis.**  It is complete, or ends with the first failure there is. -/
theorem analyze_value (a : Analyzer) (failFast : Bool) :
    (a.analyze failFast).value = settle failFast a.complete.failures a.complete := by
  have hclean : failFast = true → ({} : Progress).failures = [] := fun _ => rfl
  obtain ⟨p, hp, hgroups⟩ := analyzeGroups_spec records_nil hclean a.groups
  have hfailures : a.complete.failures = p.failures ++ a.failuresOf a.modelKeys := by
    rw [hp.failures]
    rfl
  rw [analyze, analyzeAll, value_run_bind, hgroups, hfailures]
  apply settle_bind
  intro hclean
  rw [value_run_bind, analyzeModels_spec hclean]
  apply settle_bind_ok
  rw [complete, ← hfailures]
  rfl

/-- An analysis that goes on in spite of failures is complete. -/
theorem analyze_false_value (a : Analyzer) : (a.analyze false).value = .ok a.complete :=
  (analyze_value a false).trans settle_false

/-- An analysis with a result is complete. -/
theorem eq_complete_of_analyze {failFast : Bool} {r : Analysis}
    (h : (a.analyze failFast).value = .ok r) : r = a.complete := by
  rw [analyze_value] at h
  exact eq_of_settle_eq_ok h

/-- The operations of a group are those of its endpoints. -/
theorem exists_member_of_mem_operations {api : AnalyzedApi} {op : AnalyzedOperation}
    (hapi : api ∈ a.complete.apis) (hop : op ∈ api.operations) :
    api.group ∈ a.groups ∧ ∃ e ∈ a.members api.group, e.analyze a.schemas = .ok op := by
  obtain ⟨g, hg, rfl⟩ := List.mem_map.mp hapi
  obtain ⟨i, hi, hop⟩ := List.mem_filterMap.mp hop
  obtain ⟨e, he, hanalyzed⟩ := Option.bind_eq_some_iff.mp hop
  exact ⟨hg, e, List.mem_filterMap.mpr ⟨i, hi, he⟩, toOption_eq_some_iff.mp hanalyzed⟩

/-- The models are those of the keys that get one. -/
theorem mem_models_iff {m : Model} :
    m ∈ a.complete.models ↔ ∃ key ∈ a.modelKeys, a.schemas.model key = .ok m := by
  simp only [complete, modelsOf, model, List.mem_filterMap, toOption_eq_some_iff]

end Analyzer

end ClientGen
