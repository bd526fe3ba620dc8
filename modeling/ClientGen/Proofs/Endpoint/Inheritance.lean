import ClientGen.Endpoint.Basic
import Mathlib.Data.List.Induction
import Mathlib.Data.List.Nodup

/-!
# Parameters that an operation inherits

The parameters of a path are handed to each of its operations, which may override them and
add others.  The **slot** of a parameter are its name and location.  Merging searches the
list that it builds for the slot of each own parameter; here the result is told at once.
Take the inherited entries and behind them the own ones that are the first in their slot, a
reference being in none.  Then put the last own parameter of its slot, if there is one, in
the place of each entry that is the first in its slot.

The induction is on the own entries from their end, since the last own parameter of a slot
is the one that counts.  What carries it is that an own parameter finds the first entry in
its slot, which is where the parameters of this slot before it have gone.

* `overridden`, `newcomers`: the two parts of the result;
* `mergeParameters_eq_overridden`: the result while merging is under way;
* `mergeParameters_eq`: the whole result, and what follows for slots and references.
-/

namespace ClientGen

/-- A name and a location. -/
abbrev Slot := String × Location

/-- The slot of a parameter. -/
def Parameter.slot (p : Parameter) : Slot := (p.name, p.location)

/-- The slot of an entry; a reference is in none. -/
def slot? (entry : OrRef Parameter) : Option Slot := entry.item?.map Parameter.slot

/-- The slots of some entries. -/
def slots (entries : List (OrRef Parameter)) : List Slot := entries.filterMap slot?

/-- The last parameter in a slot. -/
def lastIn? (own : List (OrRef Parameter)) (slot : Slot) : Option Parameter :=
  (own.filterMap OrRef.item?).reverse.find? (·.slot = slot)

/-- No entry seen before is in the slot of an entry. -/
def isFirst (seen : List (OrRef Parameter)) : OrRef Parameter → Bool
  | .ref _ => true
  | .inline p => p.slot ∉ slots seen

/-- The last own parameter in the slot of an entry, or the entry itself if there is none. -/
def latest (own : List (OrRef Parameter)) : OrRef Parameter → OrRef Parameter
  | .ref path => .ref path
  | .inline p => .inline ((lastIn? own p.slot).getD p)

/-- What stands in the place of an entry, given those before it. -/
def heir (own seen : List (OrRef Parameter)) (entry : OrRef Parameter) : OrRef Parameter :=
  if isFirst seen entry then latest own entry else entry

/-- What stands in the place of some entries, given those before them. -/
def overridden (own seen : List (OrRef Parameter)) :
    List (OrRef Parameter) → List (OrRef Parameter)
  | [] => []
  | entry :: rest => heir own seen entry :: overridden own (seen ++ [entry]) rest

/-- The references among some entries, and the first parameter in each slot that is not among
those of the entries seen before. -/
def firsts (seen : List (OrRef Parameter)) : List (OrRef Parameter) → List (OrRef Parameter)
  | [] => []
  | entry :: rest =>
    if isFirst seen entry then entry :: firsts (seen ++ [entry]) rest
    else firsts (seen ++ [entry]) rest

/-- What an operation adds to the parameters it inherits: its references, and the last
parameter in each slot that no inherited one is in, where the first one stands. -/
def newcomers (inherited own : List (OrRef Parameter)) : List (OrRef Parameter) :=
  (firsts inherited own).map (latest own)

/-! ### Slots -/

section Slots

variable {p q : Parameter} {entry : OrRef Parameter} {own seen entries : List (OrRef Parameter)}
  {slot : Slot}

@[simp] theorem slot?_ref (path : String) : slot? (.ref path) = none := rfl

@[simp] theorem slot?_inline (p : Parameter) : slot? (.inline p) = some p.slot := rfl

@[simp] theorem slots_nil : slots [] = [] := rfl

@[simp] theorem slots_append (front back : List (OrRef Parameter)) :
    slots (front ++ back) = slots front ++ slots back := List.filterMap_append

@[simp] theorem slots_cons_ref (path : String) (entries : List (OrRef Parameter)) :
    slots (.ref path :: entries) = slots entries := List.filterMap_cons_none rfl

@[simp] theorem slots_cons_inline (p : Parameter) (entries : List (OrRef Parameter)) :
    slots (.inline p :: entries) = p.slot :: slots entries := List.filterMap_cons_some rfl

/-- A slot is taken by the first entry or behind it. -/
theorem mem_slots_cons :
    slot ∈ slots (entry :: entries) ↔ slot? entry = some slot ∨ slot ∈ slots entries := by
  cases entry with
  | ref path => simp
  | inline p => simp [eq_comm]

/-- Two parameters are compared by their slots. -/
theorem sameSlot_iff : p.sameSlot q = true ↔ p.slot = q.slot := by
  simp [Parameter.sameSlot, Parameter.slot]

/-- An entry is compared with a parameter by the slot it takes. -/
theorem hasSlot_iff : hasSlot p entry = true ↔ slot? entry = some p.slot := by
  cases entry with
  | ref path => simp [hasSlot, OrRef.item?]
  | inline q => simp [hasSlot, OrRef.item?, sameSlot_iff]

/-- An entry is a first one if its slot is not taken before. -/
theorem isFirst_iff : isFirst seen entry = true ↔ ∀ slot ∈ slot? entry, slot ∉ slots seen := by
  cases entry with
  | ref path => simp [isFirst]
  | inline p => simp [isFirst]

/-- A reference is in no slot. -/
theorem lastIn?_concat_ref (path : String) :
    lastIn? (own ++ [.ref path]) slot = lastIn? own slot := by
  have hnone : [OrRef.ref path].filterMap (OrRef.item? (α := Parameter)) = [] := rfl
  rw [lastIn?, List.filterMap_append, hnone, List.append_nil, lastIn?]

/-- A parameter is the last one in its slot. -/
theorem lastIn?_concat_inline (p : Parameter) :
    lastIn? (own ++ [.inline p]) slot = if p.slot = slot then some p else lastIn? own slot := by
  by_cases h : p.slot = slot <;> simp [lastIn?, OrRef.item?, h]

/-- The last parameter in a slot is in that slot. -/
theorem slot_of_lastIn? (h : lastIn? own slot = some p) : p.slot = slot := by
  have hfound := List.find?_some h
  simpa using hfound

/-- An entry is replaced by one in its slot. -/
@[simp] theorem slot?_latest : slot? (latest own entry) = slot? entry := by
  cases entry with
  | ref path => rfl
  | inline p =>
      cases hlast : lastIn? own p.slot with
      | none => simp [latest, hlast]
      | some q => simp [latest, hlast, slot_of_lastIn? hlast]

/-- An heir has the slot of the entry it stands for. -/
@[simp] theorem slot?_heir : slot? (heir own seen entry) = slot? entry := by
  unfold heir
  split
  · exact slot?_latest
  · rfl

/-- A reference stays, and a parameter is replaced by a parameter. -/
theorem path?_heir : (heir own seen entry).path? = entry.path? := by
  unfold heir
  cases entry with
  | ref path => simp [latest]
  | inline p => split <;> rfl

/-- What overriding keeps of each entry, it keeps of all. -/
theorem filterMap_overridden {β : Type} {f : OrRef Parameter → Option β}
    (h : ∀ seen entry, f (heir own seen entry) = f entry) :
    (overridden own seen entries).filterMap f = entries.filterMap f := by
  induction entries generalizing seen with
  | nil => rfl
  | cons entry rest ih => rw [overridden, List.filterMap_cons, List.filterMap_cons, h, ih]

/-- Overriding changes no slots. -/
@[simp] theorem slots_overridden : slots (overridden own seen entries) = slots entries :=
  filterMap_overridden fun _ _ => slot?_heir

/-- Taking the latest of each slot changes no slots. -/
@[simp] theorem slots_map_latest : slots (entries.map (latest own)) = slots entries := by
  unfold slots
  rw [List.filterMap_map]
  exact List.filterMap_congr fun entry _ => slot?_latest

end Slots

/-! ### The first entry of each slot -/

section Firsts

variable {seen own : List (OrRef Parameter)} {entry : OrRef Parameter} {slot : Slot}

/-- One more entry is one more first entry if its slot is free. -/
theorem firsts_concat :
    firsts seen (own ++ [entry]) =
      firsts seen own ++ if isFirst (seen ++ own) entry then [entry] else [] := by
  induction own generalizing seen with
  | nil => simp [firsts]
  | cons other rest ih =>
      simp only [List.cons_append, firsts, ih, List.append_assoc, List.nil_append]
      split <;> rfl

/-- Each slot that is new has an entry. -/
theorem mem_slots_firsts_iff :
    slot ∈ slots (firsts seen own) ↔ slot ∈ slots own ∧ slot ∉ slots seen := by
  induction own using List.reverseRecOn with
  | nil => simp [firsts]
  | append_singleton own entry ih =>
      rw [firsts_concat, slots_append, slots_append, List.mem_append, List.mem_append, ih]
      cases entry with
      | ref path => simp [isFirst]
      | inline p =>
          have hlast : slots [.inline p] = [p.slot] := rfl
          rw [hlast, List.mem_singleton]
          by_cases hfirst : isFirst (seen ++ own) (.inline p) = true
          · have hnew := isFirst_iff.mp hfirst p.slot rfl
            rw [slots_append, List.mem_append, not_or] at hnew
            rw [if_pos hfirst, hlast, List.mem_singleton]
            constructor
            · intro h
              rcases h with ⟨hown, hseen⟩ | rfl
              · exact ⟨.inl hown, hseen⟩
              · exact ⟨.inr rfl, hnew.1⟩
            · intro h
              exact h.1.imp_left fun hown => ⟨hown, h.2⟩
          · have hold : p.slot ∉ slots seen → p.slot ∈ slots own := by simpa [isFirst] using hfirst
            rw [if_neg hfirst]
            constructor
            · intro h
              rcases h with ⟨hown, hseen⟩ | hnone
              · exact ⟨.inl hown, hseen⟩
              · cases hnone
            · intro h
              obtain ⟨hown | rfl, hseen⟩ := h
              · exact .inl ⟨hown, hseen⟩
              · exact .inl ⟨hold hseen, hseen⟩

/-- Each slot that is new has one entry. -/
theorem nodup_slots_firsts : (slots (firsts seen own)).Nodup := by
  induction own using List.reverseRecOn with
  | nil => exact List.nodup_nil
  | append_singleton own entry ih =>
      rw [firsts_concat, slots_append]
      cases entry with
      | ref path => simpa [isFirst] using ih
      | inline p =>
          by_cases hfirst : isFirst (seen ++ own) (.inline p) = true
          · have hnew : p.slot ∉ slots (firsts seen own) := by
              intro hmem
              have hown := (mem_slots_firsts_iff.mp hmem).1
              have hnot := isFirst_iff.mp hfirst p.slot rfl
              rw [slots_append] at hnot
              exact hnot (List.mem_append_right _ hown)
            rw [if_pos hfirst]
            simpa using List.Nodup.concat hnew ih
          · rw [if_neg hfirst]
            simpa using ih

/-- All references are there. -/
theorem path?_firsts :
    (firsts seen own).filterMap OrRef.path? = own.filterMap OrRef.path? := by
  induction own generalizing seen with
  | nil => rfl
  | cons entry rest ih =>
      cases entry with
      | ref path => rw [firsts, isFirst, if_pos rfl, List.filterMap_cons, List.filterMap_cons, ih]
      | inline p =>
          rw [firsts, List.filterMap_cons_none rfl]
          split
          · rw [List.filterMap_cons_none rfl, ih]
          · exact ih

end Firsts

/-! ### One own parameter more -/

section Concat

variable {p : Parameter} {own seen entries rest : List (OrRef Parameter)}
  {entry : OrRef Parameter}

/-- Entries are overridden one after the other. -/
theorem overridden_append :
    overridden own seen (entries ++ rest) =
      overridden own seen entries ++ overridden own (seen ++ entries) rest := by
  induction entries generalizing seen with
  | nil => simp [overridden]
  | cons entry entries ih => simp [overridden, ih]

/-- What stands for the last entry depends on all entries before it. -/
theorem overridden_concat :
    overridden own seen (entries ++ [entry]) =
      overridden own seen entries ++ [heir own (seen ++ entries) entry] :=
  overridden_append

theorem length_overridden : (overridden own seen entries).length = entries.length := by
  induction entries generalizing seen with
  | nil => rfl
  | cons entry rest ih => rw [overridden, List.length_cons, List.length_cons, ih]

/-- What stands at a position. -/
theorem getElem?_overridden (i : Nat) :
    (overridden own seen entries)[i]? =
      entries[i]?.map (heir own (seen ++ entries.take i)) := by
  induction entries generalizing seen i with
  | nil => simp [overridden]
  | cons entry rest ih =>
      cases i with
      | zero => simp [overridden]
      | succ i => simp [overridden, ih]

/-- Without own parameters all stays as it is. -/
theorem overridden_nil : overridden [] seen entries = entries := by
  have hlatest (entry : OrRef Parameter) : latest [] entry = entry := by
    cases entry <;> rfl
  induction entries generalizing seen with
  | nil => rfl
  | cons entry rest ih => rw [overridden, ih, heir, hlatest, ite_self]

/-- An own reference overrides nothing. -/
theorem overridden_concat_ref (path : String) :
    overridden (own ++ [.ref path]) seen entries = overridden own seen entries := by
  have hlatest (entry : OrRef Parameter) :
      latest (own ++ [.ref path]) entry = latest own entry := by
    cases entry with
    | ref _ => rfl
    | inline p => rw [latest, lastIn?_concat_ref, latest]
  induction entries generalizing seen with
  | nil => rfl
  | cons entry rest ih => rw [overridden, overridden, ih, heir, heir, hlatest]

/-- A parameter behind all others is the latest in its slot. -/
theorem latest_concat_of_eq (h : slot? entry = some p.slot) :
    latest (own ++ [.inline p]) entry = .inline p := by
  cases entry with
  | ref path => cases h
  | inline q =>
      have hslot : p.slot = q.slot := (Option.some.inj h).symm
      rw [latest, lastIn?_concat_inline, if_pos hslot, Option.getD_some]

/-- It changes nothing for the other slots. -/
theorem latest_concat_of_ne (h : slot? entry ≠ some p.slot) :
    latest (own ++ [.inline p]) entry = latest own entry := by
  cases entry with
  | ref path => rfl
  | inline q =>
      have hslot : ¬p.slot = q.slot := fun heq => h (congrArg some heq.symm)
      rw [latest, lastIn?_concat_inline, if_neg hslot, latest]

/-- An own parameter overrides nothing where its slot is not the first of its kind. -/
theorem overridden_concat_inline (h : p.slot ∈ slots seen ∨ p.slot ∉ slots entries) :
    overridden (own ++ [.inline p]) seen entries = overridden own seen entries := by
  induction entries generalizing seen with
  | nil => rfl
  | cons entry rest ih =>
      rw [mem_slots_cons, not_or] at h
      have hrest : p.slot ∈ slots (seen ++ [entry]) ∨ p.slot ∉ slots rest := by
        rw [slots_append]
        exact h.imp (List.mem_append_left _) And.right
      have hentry : heir (own ++ [.inline p]) seen entry = heir own seen entry := by
        by_cases hslot : slot? entry = some p.slot
        · have hseen : p.slot ∈ slots seen := h.resolve_right fun hnot => hnot.1 hslot
          have hlater : ¬isFirst seen entry = true := fun hfirst =>
            isFirst_iff.mp hfirst p.slot hslot hseen
          rw [heir, heir, if_neg hlater, if_neg hlater]
        · rw [heir, heir, latest_concat_of_ne hslot]
      rw [overridden, overridden, ih hrest, hentry]

/-- **Overriding.**  An own parameter whose slot is there is put in the place of the first
entry in its slot. -/
theorem replaceSlot_overridden (hnew : p.slot ∉ slots seen) (hmem : p.slot ∈ slots entries) :
    replaceSlot p (overridden own seen entries) =
      overridden (own ++ [.inline p]) seen entries := by
  induction entries generalizing seen with
  | nil => cases hmem
  | cons entry rest ih =>
      rw [overridden, overridden, replaceSlot]
      by_cases hslot : slot? entry = some p.slot
      · have hfirst : isFirst seen entry = true := by
          rw [isFirst_iff]
          intro slot hentry
          rwa [← Option.some.inj (hslot.symm.trans hentry)]
        have hlater : p.slot ∈ slots (seen ++ [entry]) := by
          rw [slots_append]
          exact List.mem_append_right _ (mem_slots_cons.mpr (.inl hslot))
        have hhere : hasSlot p (heir own seen entry) = true :=
          hasSlot_iff.mpr (slot?_heir.trans hslot)
        rw [if_pos hhere, overridden_concat_inline (.inl hlater), heir, if_pos hfirst,
          latest_concat_of_eq hslot]
      · have hother : ¬hasSlot p (heir own seen entry) = true := by
          rw [hasSlot_iff, slot?_heir]
          exact hslot
        have hseen : p.slot ∉ slots (seen ++ [entry]) := by
          rw [slots_append, List.mem_append, mem_slots_cons]
          simpa using ⟨hnew, hslot⟩
        have hrest := (mem_slots_cons.mp hmem).resolve_left hslot
        rw [if_neg hother, ih hseen hrest, heir, heir, latest_concat_of_ne hslot]

/-- A parameter whose slot is not there is put behind all entries. -/
theorem replaceSlot_of_not_mem (h : p.slot ∉ slots entries) :
    replaceSlot p entries = entries ++ [.inline p] := by
  induction entries with
  | nil => rfl
  | cons entry rest ih =>
      rw [mem_slots_cons, not_or] at h
      rw [replaceSlot, if_neg (mt hasSlot_iff.mp h.1), ih h.2, List.cons_append]

end Concat

/-! ### All own entries -/

section Merge

variable {inherited own entries seen : List (OrRef Parameter)}

/-- The slots that are taken after the inherited entries and the first ones of each slot are
those of all entries. -/
theorem mem_slots_append_firsts_iff {slot : Slot} :
    slot ∈ slots (inherited ++ firsts inherited own) ↔ slot ∈ slots (inherited ++ own) := by
  rw [slots_append, slots_append, List.mem_append, List.mem_append, mem_slots_firsts_iff]
  by_cases h : slot ∈ slots inherited <;> simp [h]

/-- **Merging.**  The inherited entries and the first own ones of each slot are overridden by
the own parameters. -/
theorem mergeParameters_eq_overridden (inherited own : List (OrRef Parameter)) :
    mergeParameters inherited own = overridden own [] (inherited ++ firsts inherited own) := by
  induction own using List.reverseRecOn with
  | nil => rw [firsts, List.append_nil, overridden_nil, mergeParameters, List.foldl_nil]
  | append_singleton own entry ih =>
      have hstep : mergeParameters inherited (own ++ [entry]) =
          addParameter (mergeParameters inherited own) entry := List.foldl_concat ..
      rw [hstep, ih, firsts_concat, ← List.append_assoc]
      cases entry with
      | ref path =>
          rw [isFirst, if_pos rfl, overridden_concat_ref, addParameter, overridden_concat]
          rfl
      | inline p =>
          rw [addParameter]
          by_cases hslot : p.slot ∈ slots (inherited ++ own)
          · have hlater : ¬isFirst (inherited ++ own) (.inline p) = true := fun hfirst =>
              isFirst_iff.mp hfirst p.slot rfl hslot
            rw [if_neg hlater, List.append_nil]
            exact replaceSlot_overridden List.not_mem_nil (mem_slots_append_firsts_iff.mpr hslot)
          · have hfirst : isFirst (inherited ++ own) (.inline p) = true :=
              decide_eq_true hslot
            have hnot := mt mem_slots_append_firsts_iff.mp hslot
            rw [if_pos hfirst, replaceSlot_of_not_mem (by rwa [slots_overridden]),
              overridden_concat, overridden_concat_inline (.inr hnot), heir,
              latest_concat_of_eq rfl, ite_self]

/-- Where all entries are the first in their slot, each of them is overridden. -/
theorem overridden_eq_map (hnodup : (slots entries).Nodup)
    (hnew : ∀ slot ∈ slots entries, slot ∉ slots seen) :
    overridden own seen entries = entries.map (latest own) := by
  induction entries generalizing seen with
  | nil => rfl
  | cons entry rest ih =>
      have hfirst : isFirst seen entry = true := isFirst_iff.mpr fun slot hslot =>
        hnew slot (mem_slots_cons.mpr (.inl hslot))
      have hsplit : slots (entry :: rest) = slots [entry] ++ slots rest := slots_append [entry] rest
      rw [hsplit] at hnodup hnew
      have hrest : ∀ slot ∈ slots rest, slot ∉ slots (seen ++ [entry]) := by
        intro slot hslot
        have hdisjoint := List.disjoint_of_nodup_append hnodup
        rw [slots_append, List.mem_append, not_or]
        exact ⟨hnew slot (List.mem_append_right _ hslot), fun hmem => hdisjoint hmem hslot⟩
      rw [overridden, heir, if_pos hfirst, ih (List.Nodup.of_append_right hnodup) hrest,
        List.map_cons]

/-- **Inheritance.**  The inherited entries stay in their places, each of them as it is or
overridden by the last own parameter in its slot, if it is the first in that slot.  Behind
them come the references of the operation and the last parameter in each slot that is new.
So no slot that is new is there twice, no slot is lost, and all references are kept in their
order. -/
theorem mergeParameters_eq (inherited own : List (OrRef Parameter)) :
    ∃ front,
      mergeParameters inherited own = front ++ newcomers inherited own ∧
      front.length = inherited.length ∧
      (∀ i : Nat, front[i]? = inherited[i]?.map (heir own (inherited.take i))) ∧
      (slots (newcomers inherited own)).Nodup ∧
      (∀ slot, slot ∈ slots (newcomers inherited own) ↔
        slot ∈ slots own ∧ slot ∉ slots inherited) ∧
      (∀ slot, slot ∈ slots (mergeParameters inherited own) ↔
        slot ∈ slots inherited ∨ slot ∈ slots own) ∧
      (mergeParameters inherited own).filterMap OrRef.path? =
        inherited.filterMap OrRef.path? ++ own.filterMap OrRef.path? := by
  have hmerged := mergeParameters_eq_overridden inherited own
  have hnew : ∀ slot, slot ∈ slots (newcomers inherited own) ↔
      slot ∈ slots own ∧ slot ∉ slots inherited := by
    intro slot
    rw [newcomers, slots_map_latest, mem_slots_firsts_iff]
  have hback : overridden own inherited (firsts inherited own) = newcomers inherited own :=
    overridden_eq_map nodup_slots_firsts fun slot hslot => (mem_slots_firsts_iff.mp hslot).2
  refine ⟨overridden own [] inherited, ?_, length_overridden, getElem?_overridden, ?_, hnew,
    ?_, ?_⟩
  · rw [hmerged, overridden_append, List.nil_append, hback]
  · rw [newcomers, slots_map_latest]
    exact nodup_slots_firsts
  · intro slot
    rw [hmerged, slots_overridden, mem_slots_append_firsts_iff, slots_append, List.mem_append]
  · rw [hmerged, filterMap_overridden fun _ _ => path?_heir, List.filterMap_append, path?_firsts]

end Merge

end ClientGen
