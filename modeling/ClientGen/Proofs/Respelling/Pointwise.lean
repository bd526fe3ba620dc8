import ClientGen.Document.Schema
import ClientGen.Proofs.Outcome
import Mathlib.Data.Option.Basic

/-!
# Data that agree piece by piece

Two documents may be the same up to some pieces deep inside, which are related in a way of
their own.  Such a relation goes up to everything that holds these pieces: to references,
to entries under keys, and to the outcomes of steps that may fail.  A function that does
not look into the pieces keeps it.

* `OrRef.Rel`, `Additional.Rel`, `EntryRel`, `OutcomeRel`: the relation lifted;
* `rel_lookup`, `rel_find?`, `mapM_eq_of_rel`: functions that keep it.
-/

namespace ClientGen

/-- The same reference, or items that are related. -/
inductive OrRef.Rel {α β : Type} (R : α → β → Prop) : OrRef α → OrRef β → Prop
  | ref (path : String) : Rel R (.ref path) (.ref path)
  | inline {a : α} {b : β} (h : R a b) : Rel R (.inline a) (.inline b)

/-- The same flag, or schemas that are related. -/
inductive Additional.Rel {α β : Type} (R : α → β → Prop) : Additional α → Additional β → Prop
  | flag (allowed : Bool) : Rel R (.flag allowed) (.flag allowed)
  | schema {a : α} {b : β} (h : R a b) : Rel R (.schema a) (.schema b)

/-- Related values under the same key. -/
inductive EntryRel {κ α β : Type} (R : α → β → Prop) : κ × α → κ × β → Prop
  | mk (key : κ) {a : α} {b : β} (h : R a b) : EntryRel R (key, a) (key, b)

/-- The same failure, or results that are related. -/
inductive OutcomeRel {ε α β : Type} (R : α → β → Prop) : Except ε α → Except ε β → Prop
  | error (e : ε) : OutcomeRel R (.error e) (.error e)
  | ok {a : α} {b : β} (h : R a b) : OutcomeRel R (.ok a) (.ok b)

section

variable {ε κ α β γ δ : Type} {R : α → β → Prop} {S : γ → δ → Prop} {as : List α} {bs : List β}

open List (Forall₂)

/-! ### Lists -/

theorem isEmpty_eq_of_rel (h : Forall₂ R as bs) : as.isEmpty = bs.isEmpty := by
  cases h <;> rfl

theorem rel_head? (h : Forall₂ R as bs) : Option.Rel R as.head? bs.head? := by
  cases h with
  | nil => exact .none
  | cons hab _ => exact .some hab

/-- Tests that agree on related items find related items. -/
theorem rel_find? {p : α → Bool} {q : β → Bool} (hpq : ∀ a b, R a b → p a = q b)
    (h : Forall₂ R as bs) : Option.Rel R (as.find? p) (bs.find? q) := by
  induction h with
  | nil => exact .none
  | @cons a b as bs hab _ ih =>
      rw [List.find?_cons, List.find?_cons, ← hpq a b hab]
      split
      · exact .some hab
      · exact ih

/-- Functions that give the same for related items give the same lists. -/
theorem map_eq_of_rel {f : α → γ} {g : β → γ} (hfg : ∀ a b, R a b → f a = g b)
    (h : Forall₂ R as bs) : as.map f = bs.map g := by
  induction h with
  | nil => rfl
  | cons hab _ ih => rw [List.map_cons, List.map_cons, hfg _ _ hab, ih]

/-- Partial functions that agree on related items give equal lists. -/
theorem filterMap_eq_of_rel {f : α → Option γ} {g : β → Option γ}
    (hfg : ∀ a b, R a b → f a = g b) (h : Forall₂ R as bs) :
    as.filterMap f = bs.filterMap g := by
  induction h with
  | nil => rfl
  | cons hab _ ih => rw [List.filterMap_cons, List.filterMap_cons, hfg _ _ hab, ih]

/-- Functions that can fail and agree on related items give equal lists, or the same failure. -/
theorem mapM_eq_of_rel {f : α → Except ε γ} {g : β → Except ε γ}
    (hfg : ∀ a b, R a b → f a = g b) (h : Forall₂ R as bs) : as.mapM f = bs.mapM g := by
  induction h with
  | nil => rfl
  | cons hab _ ih => rw [List.mapM_cons, List.mapM_cons, hfg _ _ hab, ih]

/-- What is under a key. -/
theorem rel_lookup [BEq κ] (key : κ) {as : List (κ × α)} {bs : List (κ × β)}
    (h : Forall₂ (EntryRel R) as bs) : Option.Rel R (as.lookup key) (bs.lookup key) := by
  induction h with
  | nil => exact .none
  | cons hab _ ih =>
      obtain ⟨k, hab⟩ := hab
      rw [List.lookup_cons, List.lookup_cons]
      split
      · exact .some hab
      · exact ih

/-- What is at a position. -/
theorem rel_getElem? (h : Forall₂ R as bs) (i : Nat) : Option.Rel R as[i]? bs[i]? := by
  induction h generalizing i with
  | nil => exact .none
  | cons hab _ ih =>
      cases i with
      | zero => exact .some hab
      | succ i => exact ih i

/-! ### Options -/

theorem isSome_eq_of_rel {a? : Option α} {b? : Option β} (h : Option.Rel R a? b?) :
    a?.isSome = b?.isSome := by
  cases h <;> rfl

theorem eq_none_of_rel {b? : Option β} (h : Option.Rel R none b?) : b? = none := by
  cases h
  rfl

/-- What an item is related to is an item. -/
theorem exists_of_rel {a : α} {b? : Option β} (h : Option.Rel R (some a) b?) :
    ∃ b, b? = some b ∧ R a b := by
  cases h with
  | some hab => exact ⟨_, rfl, hab⟩

theorem rel_toList {a? : Option α} {b? : Option β} (h : Option.Rel R a? b?) :
    Forall₂ R a?.toList b?.toList := by
  cases h with
  | none => exact .nil
  | some hab => exact .cons hab .nil

/-- The first of two that is there is related to the first of the other two. -/
theorem rel_or {a? a'? : Option α} {b? b'? : Option β} (h : Option.Rel R a? b?)
    (h' : Option.Rel R a'? b'?) : Option.Rel R (a?.or a'?) (b?.or b'?) := by
  cases h with
  | none => exact h'
  | some hab => exact .some hab

theorem rel_map? {f : α → γ} {g : β → δ} (hfg : ∀ a b, R a b → S (f a) (g b)) {a? : Option α}
    {b? : Option β} (h : Option.Rel R a? b?) : Option.Rel S (a?.map f) (b?.map g) := by
  cases h with
  | none => exact .none
  | some hab => exact .some (hfg _ _ hab)

theorem rel_bind? {f : α → Option γ} {g : β → Option δ}
    (hfg : ∀ a b, R a b → Option.Rel S (f a) (g b)) {a? : Option α} {b? : Option β}
    (h : Option.Rel R a? b?) : Option.Rel S (a?.bind f) (b?.bind g) := by
  cases h with
  | none => exact .none
  | some hab => exact hfg _ _ hab

theorem map?_eq_of_rel {f : α → γ} {g : β → γ} (hfg : ∀ a b, R a b → f a = g b) {a? : Option α}
    {b? : Option β} (h : Option.Rel R a? b?) : a?.map f = b?.map g := by
  cases h with
  | none => rfl
  | some hab => exact congrArg some (hfg _ _ hab)

theorem bind?_eq_of_rel {f : α → Option γ} {g : β → Option γ} (hfg : ∀ a b, R a b → f a = g b)
    {a? : Option α} {b? : Option β} (h : Option.Rel R a? b?) : a?.bind f = b?.bind g := by
  cases h with
  | none => rfl
  | some hab => exact hfg _ _ hab

/-! ### Outcomes -/

/-- A function applied to both results keeps the outcomes related; failures are untouched. -/
theorem OutcomeRel.map {f : α → γ} {g : β → δ} (hfg : ∀ a b, R a b → S (f a) (g b))
    {x : Except ε α} {y : Except ε β} (h : OutcomeRel R x y) :
    OutcomeRel S (x.map f) (y.map g) := by
  cases h with
  | error e => exact .error e
  | ok hab => exact .ok (hfg _ _ hab)

end

/-! ### References -/

variable {α β : Type} {R : α → β → Prop} {a : OrRef α} {b : OrRef β}

theorem OrRef.Rel.item? (h : OrRef.Rel R a b) : Option.Rel R a.item? b.item? := by
  cases h with
  | ref path => exact .none
  | inline hab => exact .some hab

theorem OrRef.Rel.path? (h : OrRef.Rel R a b) : a.path? = b.path? := by
  cases h <;> rfl

end ClientGen
