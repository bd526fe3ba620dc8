import ClientGen.Endpoint.Basic
import Mathlib.Data.List.Basic
import Mathlib.Data.List.Induction

/-!
# Lists without their repetitions

`List.eraseDups` keeps each item where it first comes, and so does `distinct`, which looks
back at what it has kept.

* `eraseDups_concat`: one item more at the end;
* `pairwise_idxOf_eraseDups`: the order of what is kept;
* `FirstSeen`: what it means to keep each item where it first comes, and nothing else;
* `distinct_eq_eraseDups`: the two ways to do so.
-/

namespace ClientGen

variable {α : Type} [DecidableEq α]

/-- One item more is left out if it is a repetition. -/
theorem eraseDups_concat (items : List α) (a : α) :
    (items ++ [a]).eraseDups = items.eraseDups ++ if a ∈ items then [] else [a] := by
  rw [List.eraseDups_append]
  by_cases ha : a ∈ items
  · simp [ha, List.removeAll]
  · simp [ha, List.removeAll, List.eraseDups_cons]

/-- Items that are not repeated stand in the order in which they first come. -/
theorem pairwise_idxOf_eraseDups (items : List α) :
    items.eraseDups.Pairwise fun a b => items.idxOf a < items.idxOf b := by
  induction items using List.reverseRecOn with
  | nil => exact List.Pairwise.nil
  | append_singleton items a ih =>
      -- An item more at the end leaves all first places before it as they are.
      have hfirst : ∀ b ∈ items, (items ++ [a]).idxOf b = items.idxOf b :=
        fun b hb => List.idxOf_append_of_mem hb
      have hearlier : items.eraseDups.Pairwise fun b c =>
          (items ++ [a]).idxOf b < (items ++ [a]).idxOf c := by
        refine ih.imp_of_mem fun hb hc hlt => ?_
        rwa [hfirst _ (List.mem_eraseDups.mp hb), hfirst _ (List.mem_eraseDups.mp hc)]
      rw [eraseDups_concat]
      by_cases ha : a ∈ items
      · rw [if_pos ha, List.append_nil]
        exact hearlier
      · rw [if_neg ha]
        refine List.pairwise_append.mpr ⟨hearlier, List.pairwise_singleton _ _, ?_⟩
        intro b hb c hc
        have hmem := List.mem_eraseDups.mp hb
        have hlt := List.idxOf_lt_length_of_mem hmem
        rw [List.mem_singleton.mp hc, hfirst b hmem, List.idxOf_append_of_notMem ha]
        omega

/-- The items of a list in the order in which they first come in it. -/
structure FirstSeen (items kept : List α) : Prop where
  mem_iff : ∀ a, a ∈ kept ↔ a ∈ items
  ordered : kept.Pairwise fun a b => items.idxOf a < items.idxOf b

namespace FirstSeen

variable {items kept : List α}

/-- The first occurrences of different items differ. -/
theorem nodup (h : FirstSeen items kept) : kept.Nodup := by
  refine h.ordered.imp fun hlt heq => ?_
  rw [heq] at hlt
  exact Nat.lt_irrefl _ hlt

end FirstSeen

/-- Erasing the duplicates of a list leaves the first occurrences. -/
theorem firstSeen_eraseDups (items : List α) : FirstSeen items items.eraseDups :=
  ⟨fun _ => List.mem_eraseDups, pairwise_idxOf_eraseDups items⟩

/-- The texts that are kept after some others are those that are not among them. -/
theorem distinctFrom_eq_eraseDups (seen texts : List String) :
    distinctFrom seen texts = (texts.filter (· ∉ seen)).eraseDups := by
  induction texts generalizing seen with
  | nil => rfl
  | cons s rest ih =>
      rw [distinctFrom]
      by_cases hs : s ∈ seen
      · rw [if_pos hs, ih, List.filter_cons_of_neg (by simpa using hs)]
      · rw [if_neg hs, ih, List.filter_cons_of_pos (by simpa using hs), List.eraseDups_cons,
          List.filter_filter]
        congr 2
        refine List.filter_congr fun t _ => ?_
        grind

/-- The texts that are kept are those that erasing the duplicates keeps. -/
theorem distinct_eq_eraseDups (texts : List String) : distinct texts = texts.eraseDups := by
  rw [distinct, distinctFrom_eq_eraseDups]
  simp

/-- **Distinct texts** come in the order in which they are first seen. -/
theorem firstSeen_distinct (texts : List String) : FirstSeen texts (distinct texts) :=
  distinct_eq_eraseDups texts ▸ firstSeen_eraseDups texts

end ClientGen
