import ClientGen.Document.Inline

/-!
# Chains of references

A chain of references is followed until it ends in an item, closes a circle or
breaks off.  Its **trail** are the paths that it meets on the way.  What was met
before the chain matters only through its trail: the chain stops at the first path
of its trail that was met before, and otherwise takes its course as if nothing had
been met.

* `exists_left_of_follow`: what holds of a chain under way;
* `follow_eq`: a whole chain with a history, by the same chain without one;
* `follow_snd_eq_nil`: only one kind of failure leaves a path behind.
-/

namespace ClientGen.Catalog

variable {α : Type} {t : Catalog α}

/-- The paths that a chain meets, those left out that were met before.  It ends like
`follow`. -/
def trail (t : Catalog α) (met : List String) : OrRef α → List String
  | .inline _ => []
  | .ref path =>
    if _hpath : path ∈ met then []
    else
      match _hname : refName path t.part with
      | .error _ => [path]
      | .ok name =>
        match _htarget : t.entries.lookup name with
        | none => [path]
        | some target => path :: t.trail (path :: met) target
termination_by (t.unmet met).length
decreasing_by exact unmet_lt _hpath _hname _htarget

section Steps

variable {met : List String} {path name : String} {target : OrRef α}

/-! ### One step of a chain -/

/-- What is given in place is not followed. -/
theorem follow_inline (item : α) : t.follow met (.inline item) = (.ok item, met) := by
  rw [follow]

/-- A path that was met before is circular. -/
theorem follow_of_mem (hpath : path ∈ met) :
    t.follow met (.ref path) = (.error (.circular path), met) := by
  rw [follow, dif_pos hpath]

/-- A path of another form is refused, and stays among those met. -/
theorem follow_of_invalid {fault : PathFault} (hpath : path ∉ met)
    (hname : refName path t.part = .error fault) :
    t.follow met (.ref path) = (.error (.invalidFormat fault), path :: met) := by
  rw [follow, dif_neg hpath]
  split
  next hother => rw [hname] at hother; cases hother; rfl
  next hother => rw [hname] at hother; cases hother

/-- A path to nothing is refused, and is not kept among those met. -/
theorem follow_of_missing (hpath : path ∉ met) (hname : refName path t.part = .ok name)
    (htarget : t.entries.lookup name = none) :
    t.follow met (.ref path) = (.error (.targetNotFound path), met) := by
  rw [follow, dif_neg hpath]
  split
  next hother => rw [hname] at hother; cases hother
  next hother =>
    rw [hname] at hother
    cases hother
    split
    · rfl
    next hother => rw [htarget] at hother; cases hother

/-- The path of a step is forgotten when the rest of the chain is done. -/
theorem follow_of_target (hpath : path ∉ met) (hname : refName path t.part = .ok name)
    (htarget : t.entries.lookup name = some target) :
    t.follow met (.ref path) =
      ((t.follow (path :: met) target).1, (t.follow (path :: met) target).2.erase path) := by
  rw [follow, dif_neg hpath]
  split
  next hother => rw [hname] at hother; cases hother
  next hother =>
    rw [hname] at hother
    cases hother
    split
    next hother => rw [htarget] at hother; cases hother
    next hother => rw [htarget] at hother; cases hother; rfl

end Steps

/-! ### A chain with a history -/

/-- A chain with what it leaves behind, if a history comes before what it has met: it is
stopped by the first path of its trail that is in the history, if there is one. -/
def disturbed (history trail met : List String)
    (undisturbed : Except ReferenceError α × List String) : Except ReferenceError α × List String :=
  match trail.find? (· ∈ history) with
  | some path => (.error (.circular path), met ++ history)
  | none => (undisturbed.1, undisturbed.2 ++ history)

/-- The same with the result put to use. -/
theorem map_disturbed {β : Type} (f : Except ReferenceError α → β) {history trail : List String}
    {undisturbed : Except ReferenceError α × List String} :
    (disturbed history trail [] undisturbed).map f id =
      match trail.find? (· ∈ history) with
      | some path => (f (.error (.circular path)), history)
      | none => (f undisturbed.1, undisturbed.2 ++ history) := by
  rw [disturbed]
  cases trail.find? (· ∈ history) <;> rfl

/-- **A chain under way.**  It leaves nothing behind but what it has not met before, and
that only if it ends in a path that is no reference into the section.  A history can do
no more than stop it. -/
theorem exists_left_of_follow (met : List String) (x : OrRef α) :
    (∃ left, (t.follow met x).2 = left ++ met ∧ (∀ path ∈ left, path ∉ met) ∧
      (left = [] ∨ ∃ fault, (t.follow met x).1 = .error (.invalidFormat fault))) ∧
      ∀ history, t.follow (met ++ history) x =
        disturbed history (t.trail met x) met (t.follow met x) := by
  -- The trail stops where the chain does, so its cases are those of the chain.
  fun_induction trail t met x with
  | case1 met item =>
      rw [follow_inline]
      refine ⟨⟨[], rfl, by simp, .inl rfl⟩, fun history => ?_⟩
      rw [follow_inline]
      rfl
  | case2 met path hpath =>
      rw [follow_of_mem hpath]
      refine ⟨⟨[], rfl, by simp, .inl rfl⟩, fun history => ?_⟩
      rw [follow_of_mem (List.mem_append_left _ hpath)]
      rfl
  | case3 met path hpath fault hname =>
      rw [follow_of_invalid hpath hname]
      refine ⟨⟨[path], rfl, by simpa using hpath, .inr ⟨fault, rfl⟩⟩, fun history => ?_⟩
      by_cases hhistory : path ∈ history
      · rw [follow_of_mem (List.mem_append_right _ hhistory)]
        simp [disturbed, hhistory]
      · rw [follow_of_invalid (by simp [hpath, hhistory]) hname]
        simp [disturbed, hhistory]
  | case4 met path hpath name hname htarget =>
      rw [follow_of_missing hpath hname htarget]
      refine ⟨⟨[], rfl, by simp, .inl rfl⟩, fun history => ?_⟩
      by_cases hhistory : path ∈ history
      · rw [follow_of_mem (List.mem_append_right _ hhistory)]
        simp [disturbed, hhistory]
      · rw [follow_of_missing (by simp [hpath, hhistory]) hname htarget]
        simp [disturbed, hhistory]
  | case5 met path hpath name hname target htarget ih =>
      obtain ⟨⟨left, hafter, hnew, hend⟩, hhistories⟩ := ih
      have hleft : path ∉ left := fun h => hnew path h List.mem_cons_self
      rw [follow_of_target hpath hname htarget]
      refine ⟨⟨left, ?_, ?_, hend⟩, fun history => ?_⟩
      · rw [hafter, List.erase_append_right _ hleft, List.erase_cons_head]
      · exact fun other hother hmet => hnew other hother (List.mem_cons_of_mem _ hmet)
      · by_cases hhistory : path ∈ history
        · rw [follow_of_mem (List.mem_append_right _ hhistory)]
          simp [disturbed, hhistory]
        · rw [follow_of_target (by simp [hpath, hhistory]) hname htarget, ← List.cons_append,
            hhistories history]
          -- The path is forgotten in front of the history, so it has to be among the rest.
          have hpath : path ∈ (t.follow (path :: met) target).2 := by simp [hafter]
          have hskip : (path :: t.trail (path :: met) target).find? (· ∈ history) =
              (t.trail (path :: met) target).find? (· ∈ history) :=
            List.find?_cons_of_neg (by simpa using hhistory)
          simp only [disturbed, hskip]
          cases (t.trail (path :: met) target).find? (· ∈ history) with
          | some other => simp
          | none => simp [List.erase_append_left _ hpath]

/-- **A whole chain.**  A history changes its end, and what it leaves behind, only if
a path of its trail is in the history. -/
theorem follow_eq (history : List String) (x : OrRef α) :
    t.follow history x = disturbed history (t.trail [] x) [] (t.follow [] x) :=
  (exists_left_of_follow [] x).2 history

/-- A chain that ends otherwise than in a path that is no reference into the section
leaves nothing behind. -/
theorem follow_snd_eq_nil {x : OrRef α}
    (h : ∀ fault, (t.follow [] x).1 ≠ .error (.invalidFormat fault)) : (t.follow [] x).2 = [] := by
  obtain ⟨left, hafter, _, hnone | ⟨fault, hfault⟩⟩ := (exists_left_of_follow (t := t) [] x).1
  · rw [hafter, hnone]
    rfl
  · exact (h fault hfault).elim

/-- A chain that closes a circle leaves nothing behind. -/
theorem follow_snd_eq_nil_of_circular {x : OrRef α} {path : String}
    (h : (t.follow [] x).1 = .error (.circular path)) : (t.follow [] x).2 = [] := by
  apply follow_snd_eq_nil
  intro fault hfault
  rw [h] at hfault
  cases hfault

end ClientGen.Catalog
