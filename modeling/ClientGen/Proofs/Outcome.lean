import Mathlib.Data.List.Forall2

/-!
# Steps that may fail

What a chain of steps in `Except` gives, told by what its steps give.  These are
the lemmas by which a successful or failed result is taken apart.

* `map_eq_ok_iff`, `bind_eq_ok_iff`: one step after another;
* `mapM_eq_ok_iff`, `mapM_eq_error`: one step for each item of a list.
-/

namespace ClientGen

variable {ε α β : Type}

/-- The failure of a step, if it has failed. -/
def error? : Except ε α → Option ε
  | .ok _ => none
  | .error e => some e

theorem toOption_eq_some_iff {x : Except ε α} {a : α} : x.toOption = some a ↔ x = .ok a := by
  cases x <;> simp [Except.toOption]

theorem error?_eq_some_iff {x : Except ε α} {e : ε} : error? x = some e ↔ x = .error e := by
  cases x <;> simp [error?]

/-- A value that was changed comes from a value. -/
theorem map_eq_ok_iff {f : α → β} {x : Except ε α} {b : β} :
    x.map f = .ok b ↔ ∃ a, x = .ok a ∧ f a = b := by
  cases x <;> simp [Except.map]

theorem map_eq_error_iff {f : α → β} {x : Except ε α} {e : ε} :
    x.map f = .error e ↔ x = .error e := by
  cases x <;> simp [Except.map]

/-- Two steps succeed one after the other. -/
theorem bind_eq_ok_iff {x : Except ε α} {f : α → Except ε β} {b : β} :
    (x >>= f) = .ok b ↔ ∃ a, x = .ok a ∧ f a = .ok b := by
  cases x <;> simp [bind, Except.bind]

/-- A sequence fails with what its first step fails with, or with what the second does with the
first one's result. -/
theorem bind_eq_error_iff {x : Except ε α} {f : α → Except ε β} {e : ε} :
    (x >>= f) = .error e ↔ x = .error e ∨ ∃ a, x = .ok a ∧ f a = .error e := by
  cases x <;> simp [bind, Except.bind]

/-- All steps succeed exactly if each of them does, and the results stand in the
order of the items. -/
theorem mapM_eq_ok_iff {f : α → Except ε β} {items : List α} {results : List β} :
    items.mapM f = .ok results ↔ List.Forall₂ (fun a b => f a = .ok b) items results := by
  induction items generalizing results with
  | nil => simp [pure, Except.pure, eq_comm]
  | cons a rest ih =>
      rw [List.mapM_cons, bind_eq_ok_iff, List.forall₂_cons_left_iff]
      constructor
      · rintro ⟨b, hb, h⟩
        obtain ⟨bs, hbs, h⟩ := bind_eq_ok_iff.mp h
        cases h
        exact ⟨b, bs, hb, ih.mp hbs, rfl⟩
      · rintro ⟨b, bs, hb, hbs, rfl⟩
        exact ⟨b, hb, bind_eq_ok_iff.mpr ⟨bs, ih.mpr hbs, rfl⟩⟩

/-- What all steps keep of their items, the results have in the order of the items. -/
theorem map_eq_of_mapM {γ : Type} {f : α → Except ε β} {items : List α} {results : List β}
    {g : β → γ} {k : α → γ} (hkeep : ∀ a b, f a = .ok b → g b = k a)
    (h : items.mapM f = .ok results) : results.map g = items.map k := by
  have hresults := mapM_eq_ok_iff.mp h
  clear h
  induction hresults with
  | nil => rfl
  | cons hfirst _ ih => rw [List.map_cons, List.map_cons, hkeep _ _ hfirst, ih]

/-- What is on the right of a relation is related to something on the left. -/
theorem exists_of_mem_forall₂ {R : α → β → Prop} {items : List α} {results : List β} {b : β}
    (h : List.Forall₂ R items results) (hb : b ∈ results) : ∃ a ∈ items, R a b := by
  induction h with
  | nil => cases hb
  | cons hab _ ih =>
      rcases List.mem_cons.mp hb with rfl | hb
      · exact ⟨_, List.mem_cons_self, hab⟩
      · obtain ⟨a, ha, hab⟩ := ih hb
        exact ⟨a, List.mem_cons_of_mem _ ha, hab⟩

/-- Where items and results are related by way of something in between, there is a list of
that. -/
theorem exists_between_forall₂ {γ : Type} {R : α → γ → Prop} {S : γ → β → Prop} {items : List α}
    {results : List β} (h : List.Forall₂ (fun a b => ∃ c, R a c ∧ S c b) items results) :
    ∃ between, List.Forall₂ R items between ∧ List.Forall₂ S between results := by
  induction h with
  | nil => exact ⟨[], .nil, .nil⟩
  | cons hfirst _ ih =>
      obtain ⟨c, hac, hcb⟩ := hfirst
      obtain ⟨rest, hleft, hright⟩ := ih
      exact ⟨c :: rest, .cons hac hleft, .cons hcb hright⟩

/-- Each result comes from an item. -/
theorem exists_of_mem_mapM {f : α → Except ε β} {items : List α} {results : List β} {b : β}
    (h : items.mapM f = .ok results) (hb : b ∈ results) : ∃ a ∈ items, f a = .ok b := by
  obtain ⟨a, ha, hab⟩ := exists_of_mem_forall₂ (mapM_eq_ok_iff.mp h) hb
  exact ⟨a, ha, hab⟩

/-- The failure is that of one of the steps. -/
theorem mapM_eq_error {f : α → Except ε β} {items : List α} {e : ε}
    (h : items.mapM f = .error e) : ∃ a ∈ items, f a = .error e := by
  induction items with
  | nil => cases h
  | cons a rest ih =>
      rw [List.mapM_cons, bind_eq_error_iff] at h
      rcases h with ha | ⟨b, _, h⟩
      · exact ⟨a, List.mem_cons_self, ha⟩
      · rcases bind_eq_error_iff.mp h with hrest | ⟨bs, _, h⟩
        · obtain ⟨c, hc, hfail⟩ := ih hrest
          exact ⟨c, List.mem_cons_of_mem _ hc, hfail⟩
        · cases h

end ClientGen
