import ClientGen.Analysis.Operation
import Mathlib.Data.List.Basic

/-!
# The order of the parameters in an interface

The interface lists the parameters of the path first and the body last.  Its order comes from
sorting by rank, and sorting moves no item past another of its rank: the items of one rank,
taken out of the sorted list, are those of the list that was sorted, in the same order.

* `filter_mergeSort`: the items of one kind in a sorted list;
* `filter_append_filter_not`: an ordered list cut between two kinds;
* `interfaceParameters_eq_append`: the parameters of the interface, part by part.
-/

namespace ClientGen

/-! ### Sorted lists -/

section Sorting

variable {α : Type} {le : α → α → Bool} {R : α → α → Prop} {p : α → Bool} {items : List α}

/-- **Stability.**  If the order does not tell the items of a kind apart, sorting leaves them
as they were. -/
theorem filter_mergeSort (trans : ∀ a b c, le a b = true → le b c = true → le a c = true)
    (total : ∀ a b, (le a b || le b a) = true) (hp : ∀ a b, p a = true → p b = true → le a b = true)
    (items : List α) : (items.mergeSort le).filter p = items.filter p := by
  have hkind : (items.filter p).Pairwise fun a b => le a b = true := by
    refine List.pairwise_of_forall_mem_list fun a ha b hb => ?_
    exact hp a b (List.mem_filter.mp ha).2 (List.mem_filter.mp hb).2
  have hsub : (items.filter p).Sublist (items.mergeSort le) :=
    List.sublist_mergeSort trans total hkind List.filter_sublist
  have hfiltered : (items.filter p).Sublist ((items.mergeSort le).filter p) := by
    have htwice := hsub.filter p
    rwa [List.filter_eq_self.mpr fun a ha => (List.mem_filter.mp ha).2] at htwice
  have hlength : (items.filter p).length = ((items.mergeSort le).filter p).length :=
    ((List.mergeSort_perm items le).filter p).length_eq.symm
  exact (hfiltered.eq_of_length hlength).symm

/-- If no item of a kind stands behind one that is not of it, the kind is the front of the
list. -/
theorem filter_append_filter_not (h : items.Pairwise R)
    (hp : ∀ a b, R a b → p b = true → p a = true) :
    items.filter p ++ items.filter (fun a => !p a) = items := by
  induction items with
  | nil => rfl
  | cons a rest ih =>
      obtain ⟨hfirst, hrest⟩ := List.pairwise_cons.mp h
      by_cases ha : p a = true
      · rw [List.filter_cons_of_pos ha, List.filter_cons_of_neg (by simp [ha]), List.cons_append,
          ih hrest]
      · have hnone : rest.filter p = [] :=
          List.filter_eq_nil_iff.mpr fun b hb hpb => ha (hp a b (hfirst b hb) hpb)
        have hall : rest.filter (fun a => !p a) = rest := by
          have hcut := ih hrest
          rwa [hnone, List.nil_append] at hcut
        rw [List.filter_cons_of_neg ha, hnone, List.nil_append,
          List.filter_cons_of_pos (by simp [ha]), hall]

/-- A list in the order of ranks has the items of each rank one after another. -/
theorem flatMap_filter_rank {rank : α → Nat} {n : Nat}
    (h : items.Pairwise fun a b => rank a ≤ rank b) (hn : ∀ a ∈ items, rank a < n) :
    (List.range n).flatMap (fun k => items.filter fun a => rank a = k) = items := by
  induction n generalizing items with
  | zero => exact (List.eq_nil_iff_forall_not_mem.mpr fun a ha => Nat.not_lt_zero _ (hn a ha)).symm
  | succ n ih =>
      -- The last rank is the back of the list; the front has the ranks before it.
      have hcut := filter_append_filter_not (p := fun a => decide (rank a < n)) h
        fun a b hab hb => decide_eq_true (Nat.lt_of_le_of_lt hab (of_decide_eq_true hb))
      have hfront := ih (h.filter fun a => decide (rank a < n))
        fun a ha => of_decide_eq_true (List.mem_filter.mp ha).2
      have hparts : ∀ k ∈ List.range n,
          (items.filter fun a => rank a < n).filter (fun a => rank a = k) =
            items.filter fun a => rank a = k := by
        intro k hk
        rw [List.filter_filter]
        refine List.filter_congr fun a _ => ?_
        have hlt : k < n := List.mem_range.mp hk
        by_cases hrank : rank a = k <;> simp [hrank, hlt]
      have hlast : items.filter (fun a => rank a = n) =
          items.filter fun a => !decide (rank a < n) := by
        refine List.filter_congr fun a ha => ?_
        have hle : rank a ≤ n := Nat.le_of_lt_succ (hn a ha)
        rw [← decide_not]
        exact decide_eq_decide.mpr ⟨fun heq => by omega, fun hlt => by omega⟩
      rw [List.range_succ, List.flatMap_append, List.flatMap_singleton, hlast,
        ← List.flatMap_congr hparts, hfront, hcut]

end Sorting

/-! ### The interface -/

namespace AnalyzedOperation

variable {p : InterfaceParameter}

/-- The parameters of one rank in the order of the operation. -/
def ofRank (op : AnalyzedOperation) (k : Nat) : List InterfaceParameter :=
  (op.parameters.map (·.interface)).filter fun p => rank p = k

theorem rank_eq_zero_iff : rank p = 0 ↔ p.placement = .path := by
  rw [rank]
  cases p.placement <;> simp

theorem rank_eq_one_iff : rank p = 1 ↔ p.placement ≠ .path ∧ p.placement ≠ .body := by
  rw [rank]
  cases p.placement <;> simp

theorem rank_eq_two_iff : rank p = 2 ↔ p.placement = .body := by
  rw [rank]
  cases p.placement <;> simp

theorem rank_lt_three (p : InterfaceParameter) : rank p < 3 := by
  rw [rank]
  cases p.placement <;> decide

theorem decide_rank_trans (p q r : InterfaceParameter) (hpq : decide (rank p ≤ rank q) = true)
    (hqr : decide (rank q ≤ rank r) = true) : decide (rank p ≤ rank r) = true :=
  decide_eq_true (Nat.le_trans (of_decide_eq_true hpq) (of_decide_eq_true hqr))

theorem decide_rank_total (p q : InterfaceParameter) :
    (decide (rank p ≤ rank q) || decide (rank q ≤ rank p)) = true := by
  simpa using Nat.le_total (rank p) (rank q)

/-- The parameters of the interface are sorted by their ranks. -/
theorem pairwise_rank_interfaceParameters (op : AnalyzedOperation) :
    op.interfaceParameters.Pairwise fun p q => rank p ≤ rank q :=
  (List.pairwise_mergeSort decide_rank_trans decide_rank_total _).imp of_decide_eq_true

/-- The interface has the parameters of one rank in the order of the operation. -/
theorem filter_rank_interfaceParameters (op : AnalyzedOperation) (k : Nat) :
    op.interfaceParameters.filter (fun p => rank p = k) = op.ofRank k := by
  refine filter_mergeSort decide_rank_trans decide_rank_total (fun p q hp hq => ?_) _
  exact decide_eq_true (Nat.le_of_eq ((of_decide_eq_true hp).trans (of_decide_eq_true hq).symm))

/-- The interface lists the ranks one after another. -/
theorem interfaceParameters_eq_ofRank (op : AnalyzedOperation) :
    op.interfaceParameters = op.ofRank 0 ++ op.ofRank 1 ++ op.ofRank 2 := by
  have hranks := flatMap_filter_rank (pairwise_rank_interfaceParameters op)
    fun p _ => rank_lt_three p
  have hthree : List.range 3 = [0, 1, 2] := by decide
  simp only [hthree, filter_rank_interfaceParameters, List.flatMap_cons, List.flatMap_nil,
    List.append_nil] at hranks
  rw [List.append_assoc, hranks]

/-- **The order of the interface.**  The interface has the parameters of the operation up to
their order: first those of the path, then those that are neither of the path nor the body,
and last the body, and among themselves in the order of the operation. -/
theorem interfaceParameters_eq_append (op : AnalyzedOperation) :
    op.interfaceParameters.Perm (op.parameters.map (·.interface)) ∧
      op.interfaceParameters =
        (op.parameters.map (·.interface)).filter (fun p => p.placement = .path) ++
          (op.parameters.map (·.interface)).filter
            (fun p => p.placement ≠ .path ∧ p.placement ≠ .body) ++
          (op.parameters.map (·.interface)).filter (fun p => p.placement = .body) := by
  refine ⟨List.mergeSort_perm _ _, ?_⟩
  rw [interfaceParameters_eq_ofRank]
  simp only [ofRank, rank_eq_zero_iff, rank_eq_one_iff, rank_eq_two_iff]

end AnalyzedOperation

end ClientGen
