import ClientGen.Proofs.Document.Chain
import Mathlib.Data.List.Nodup
import Mathlib.Data.List.Perm.Subperm

/-!
# Where chains of references halt

The references of a section form a graph in which every entry leads to one other at most,
so that a chain has no choice but to go on or to halt.  A **course** of a chain are the
paths by which it comes to the entry where it halts: an item, a path that was met before,
a path that is no reference into the section, or one to which there is no component.  All
paths of a course lead on, they are different, and none of them was met before, so the
course halts at the first occasion.

Following a chain takes its course, and there is exactly one.  It is no longer than there
are components in the section, also where the references go round in a circle.  The paths
that count as met afterwards are those from before, and a path that is no reference.

* `Passes`, `Halts`, `Course`: what a course is, told without the search for it;
* `follow_halts`: following a chain takes the one course it has;
* `EndsIn.exists_met`: a chain that ends in an item is cut off by its history only.
-/

namespace ClientGen.Catalog

variable {α : Type}

/-! ### Courses -/

/-- A chain comes from one entry to another by some paths, each of which leads on: it is a
reference into the section, and there is a component of that name. -/
inductive Passes (t : Catalog α) : OrRef α → List String → OrRef α → Prop
  | here (entry : OrRef α) : Passes t entry [] entry
  | step {path name : String} {target last : OrRef α} {paths : List String}
      (hname : refName path t.part = .ok name) (htarget : t.entries.lookup name = some target)
      (hrest : Passes t target paths last) : Passes t (.ref path) (path :: paths) last

/-- A chain that has come by some paths halts at an entry, given the paths met before it
began.  It gives a result, and some paths count as met afterwards. -/
inductive Halts (t : Catalog α) (met paths : List String) :
    OrRef α → Except ReferenceError α → List String → Prop
  | item (item : α) : Halts t met paths (.inline item) (.ok item) met
  | circle {path : String} (hpath : path ∈ met ∨ path ∈ paths) :
      Halts t met paths (.ref path) (.error (.circular path)) met
  | rejected {path : String} {fault : PathFault} (hmet : path ∉ met) (hpaths : path ∉ paths)
      (hname : refName path t.part = .error fault) :
      Halts t met paths (.ref path) (.error (.invalidFormat fault)) (path :: met)
  | missing {path name : String} (hmet : path ∉ met) (hpaths : path ∉ paths)
      (hname : refName path t.part = .ok name) (htarget : t.entries.lookup name = none) :
      Halts t met paths (.ref path) (.error (.targetNotFound path)) met

/-- A chain runs from an entry to the last one, where it halts, and has not halted before. -/
structure Course (t : Catalog α) (met : List String) (entry : OrRef α) (paths : List String)
    (last : OrRef α) (result : Except ReferenceError α) (after : List String) : Prop where
  passes : t.Passes entry paths last
  nodup : paths.Nodup
  fresh : ∀ path ∈ paths, path ∉ met
  halts : t.Halts met paths last result after

variable {t : Catalog α} {met paths : List String} {entry last : OrRef α} {path : String}
  {result : Except ReferenceError α} {after : List String}

/-- The first path of a chain counts as met for the rest of it, and is forgotten at its end. -/
theorem halts_cons_iff :
    t.Halts met (path :: paths) last result after ↔
      ∃ later, t.Halts (path :: met) paths last result later ∧ after = later.erase path := by
  constructor
  · intro h
    cases h with
    | item item => exact ⟨_, .item item, (List.erase_cons_head _ _).symm⟩
    | circle hpath =>
        refine ⟨_, .circle ?_, (List.erase_cons_head _ _).symm⟩
        simpa only [List.mem_cons, or_assoc, or_left_comm] using hpath
    | rejected hmet hpaths hname =>
        have hne := List.ne_of_not_mem_cons hpaths
        refine ⟨_, .rejected (List.not_mem_cons_of_ne_of_not_mem hne hmet)
          (List.not_mem_of_not_mem_cons hpaths) hname, ?_⟩
        rw [List.erase_cons_tail (by simpa using hne), List.erase_cons_head]
    | missing hmet hpaths hname htarget =>
        have hne := List.ne_of_not_mem_cons hpaths
        exact ⟨_, .missing (List.not_mem_cons_of_ne_of_not_mem hne hmet)
          (List.not_mem_of_not_mem_cons hpaths) hname htarget, (List.erase_cons_head _ _).symm⟩
  · intro h
    obtain ⟨later, h, rfl⟩ := h
    cases h with
    | item item =>
        rw [List.erase_cons_head]
        exact .item item
    | circle hpath =>
        rw [List.erase_cons_head]
        refine .circle ?_
        simpa only [List.mem_cons, or_assoc, or_left_comm] using hpath
    | rejected hmet hpaths hname =>
        have hne := List.ne_of_not_mem_cons hmet
        rw [List.erase_cons_tail (by simpa using hne), List.erase_cons_head]
        exact .rejected (List.not_mem_of_not_mem_cons hmet)
          (List.not_mem_cons_of_ne_of_not_mem hne hpaths) hname
    | missing hmet hpaths hname htarget =>
        have hne := List.ne_of_not_mem_cons hmet
        rw [List.erase_cons_head]
        exact .missing (List.not_mem_of_not_mem_cons hmet)
          (List.not_mem_cons_of_ne_of_not_mem hne hpaths) hname htarget

/-- A course begins with a path that leads on, and goes on with that path met. -/
theorem course_cons_iff {name : String} {target : OrRef α} (hpath : path ∉ met)
    (hname : refName path t.part = .ok name) (htarget : t.entries.lookup name = some target) :
    t.Course met (.ref path) (path :: paths) last result after ↔
      ∃ later, t.Course (path :: met) target paths last result later ∧
        after = later.erase path := by
  constructor
  · intro h
    obtain ⟨hpasses, hnodup, hfresh, hhalts⟩ := h
    obtain ⟨hnew, hnodup⟩ := List.nodup_cons.mp hnodup
    obtain ⟨later, hhalts, hafter⟩ := halts_cons_iff.mp hhalts
    refine ⟨later, ⟨?_, hnodup, ?_, hhalts⟩, hafter⟩
    · cases hpasses with
      | step hother hlookup hrest =>
          cases hname.symm.trans hother
          cases htarget.symm.trans hlookup
          exact hrest
    · intro other hother hmet
      rcases List.mem_cons.mp hmet with rfl | hmet
      · exact hnew hother
      · exact hfresh other (List.mem_cons_of_mem _ hother) hmet
  · intro h
    obtain ⟨later, ⟨hpasses, hnodup, hfresh, hhalts⟩, hafter⟩ := h
    have hnew : path ∉ paths := fun h => hfresh path h List.mem_cons_self
    refine ⟨.step hname htarget hpasses, List.nodup_cons.mpr ⟨hnew, hnodup⟩, ?_,
      halts_cons_iff.mpr ⟨later, hhalts, hafter⟩⟩
    intro other hother hmet
    rcases List.mem_cons.mp hother with rfl | hother
    · exact hpath hmet
    · exact hfresh other hother (List.mem_cons_of_mem _ hmet)

/-! ### The course that is followed -/

/-- A chain has a course, and gives what it gives. -/
theorem exists_course (t : Catalog α) (met : List String) (entry : OrRef α) :
    ∃ paths last, t.Course met entry paths last (t.follow met entry).1 (t.follow met entry).2 := by
  -- The trail stops where the chain does, so its cases are those of the chain.
  fun_induction trail t met entry with
  | case1 met item =>
      rw [follow_inline]
      exact ⟨[], _, .here _, List.nodup_nil, by simp, .item item⟩
  | case2 met path hpath =>
      rw [follow_of_mem hpath]
      exact ⟨[], _, .here _, List.nodup_nil, by simp, .circle (.inl hpath)⟩
  | case3 met path hpath fault hname =>
      rw [follow_of_invalid hpath hname]
      exact ⟨[], _, .here _, List.nodup_nil, by simp, .rejected hpath List.not_mem_nil hname⟩
  | case4 met path hpath name hname htarget =>
      rw [follow_of_missing hpath hname htarget]
      exact ⟨[], _, .here _, List.nodup_nil, by simp,
        .missing hpath List.not_mem_nil hname htarget⟩
  | case5 met path hpath name hname target htarget ih =>
      obtain ⟨paths, last, hcourse⟩ := ih
      rw [follow_of_target hpath hname htarget]
      exact ⟨path :: paths, last, (course_cons_iff hpath hname htarget).mpr ⟨_, hcourse, rfl⟩⟩

/-- Whatever course a chain has, it is the one that is followed. -/
theorem Course.follow_eq (h : t.Course met entry paths last result after) :
    t.follow met entry = (result, after) := by
  obtain ⟨hpasses, hnodup, hfresh, hhalts⟩ := h
  induction hpasses generalizing met after with
  | here entry =>
      cases hhalts with
      | item item => exact follow_inline item
      | circle hpath =>
          rw [follow_of_mem (hpath.resolve_right List.not_mem_nil)]
      | rejected hmet _ hname => exact follow_of_invalid hmet hname
      | missing hmet _ hname htarget => exact follow_of_missing hmet hname htarget
  | @step path name target last paths hname htarget hrest ih =>
      have hpath : path ∉ met := hfresh path List.mem_cons_self
      have hcourse : t.Course met (.ref path) (path :: paths) last result after :=
        ⟨.step hname htarget hrest, hnodup, hfresh, hhalts⟩
      obtain ⟨later, hlater, rfl⟩ := (course_cons_iff hpath hname htarget).mp hcourse
      rw [follow_of_target hpath hname htarget,
        ih hlater.nodup hlater.fresh hlater.halts]

/-- Each path that leads on is that of a component. -/
theorem Passes.subset (h : t.Passes entry paths last) :
    paths ⊆ t.entries.map fun component => refPath t.part component.1 := by
  induction h with
  | here entry => exact List.nil_subset _
  | @step path name target last paths hname htarget _ ih =>
      obtain ⟨front, back, hentries, _⟩ := List.lookup_eq_some_iff.mp htarget
      have hmem : (name, target) ∈ t.entries := by simp [hentries]
      have hpath := List.mem_map_of_mem (f := fun component => refPath t.part component.1) hmem
      rw [← eq_refPath_of_refName hname] at hpath
      exact List.cons_subset.mpr ⟨hpath, ih⟩

/-- There are no more steps in a course than components in the section. -/
theorem Course.length_le (h : t.Course met entry paths last result after) :
    paths.length ≤ t.entries.length := by
  have hle := (h.nodup.subperm h.passes.subset).length_le
  rwa [List.length_map] at hle

/-- **Chains.**  Every chain has a course, which is no longer than there are components, and
gives what the course gives: the item it halts at, or why it halts at a reference.  No other
course is there.  Afterwards the same paths count as met as before, and besides them only a
path that is no reference into the section, if the chain halts at one. -/
theorem follow_halts (t : Catalog α) (met : List String) (entry : OrRef α) :
    (∃ paths last,
      t.Course met entry paths last (t.follow met entry).1 (t.follow met entry).2 ∧
        paths.length ≤ t.entries.length) ∧
    ∀ result after, t.follow met entry = (result, after) ↔
      ∃ paths last, t.Course met entry paths last result after := by
  obtain ⟨paths, last, hcourse⟩ := exists_course t met entry
  refine ⟨⟨paths, last, hcourse, hcourse.length_le⟩, fun result after => ⟨?_, ?_⟩⟩
  · intro h
    rw [h] at hcourse
    exact ⟨paths, last, hcourse⟩
  · intro h
    obtain ⟨_, _, hother⟩ := h
    exact hother.follow_eq

/-! ### Chains that end in an item -/

/-- A chain of references ends in an item. -/
def EndsIn (t : Catalog α) (entry : OrRef α) (item : α) : Prop :=
  ∃ paths, t.Passes entry paths (.inline item)

/-- A chain goes the same way up to the item it ends in. -/
theorem Passes.exists_rest {others : List String} {item : α} (h : t.Passes entry paths last)
    (hend : t.Passes entry others (.inline item)) :
    ∃ rest, others = paths ++ rest ∧ t.Passes last rest (.inline item) := by
  induction h generalizing others with
  | here entry => exact ⟨others, rfl, hend⟩
  | step hname htarget _ ih =>
      cases hend with
      | step hother hlookup hrest =>
          cases hname.symm.trans hother
          cases htarget.symm.trans hlookup
          obtain ⟨rest, rfl, hlast⟩ := ih hrest
          exact ⟨rest, rfl, hlast⟩

/-- There is one way to an item at most, and one item to end in. -/
theorem Passes.eq_of_item {others : List String} {item other : α}
    (h : t.Passes entry paths (.inline item)) (hother : t.Passes entry others (.inline other)) :
    paths = others ∧ item = other := by
  obtain ⟨rest, rfl, hrest⟩ := h.exists_rest hother
  cases hrest with
  | here _ => exact ⟨(List.append_nil paths).symm, rfl⟩

/-- A chain comes to each path before it comes by it. -/
theorem Passes.exists_front (h : t.Passes entry paths last) (hpath : path ∈ paths) :
    ∃ front back, paths = front ++ path :: back ∧ t.Passes entry front (.ref path) := by
  induction h with
  | here entry => cases hpath
  | step hname htarget hrest ih =>
      rcases List.mem_cons.mp hpath with rfl | hpath
      · exact ⟨[], _, rfl, .here _⟩
      · obtain ⟨front, back, rfl, hfront⟩ := ih hpath
        exact ⟨_ :: front, back, rfl, .step hname htarget hfront⟩

/-- A chain that ends in an item does not come back to a path. -/
theorem Passes.not_mem_of_endsIn {item : α} (h : t.Passes entry paths (.ref path))
    (hend : t.EndsIn entry item) : path ∉ paths := by
  intro hmem
  obtain ⟨front, back, hpaths, hfront⟩ := h.exists_front hmem
  obtain ⟨others, hothers⟩ := hend
  obtain ⟨fromFront, hsplit, hlast⟩ := hfront.exists_rest hothers
  obtain ⟨fromEnd, hsplit', hlast'⟩ := h.exists_rest hothers
  -- What is left of the chain would be the same at both visits.
  obtain ⟨rfl, _⟩ := hlast.eq_of_item hlast'
  have hsame : front = paths := List.append_cancel_right (hsplit.symm.trans hsplit')
  have hlength := congrArg List.length hpaths
  rw [hsame, List.length_append, List.length_cons] at hlength
  omega

/-- What is found by following a chain is the item it ends in. -/
theorem endsIn_of_follow_eq_ok {item : α} (h : (t.follow met entry).1 = .ok item) :
    t.EndsIn entry item := by
  obtain ⟨paths, last, hcourse⟩ := exists_course t met entry
  have hhalts := hcourse.halts
  rw [h] at hhalts
  generalize (t.follow met entry).2 = after at hhalts
  cases hhalts with
  | item => exact ⟨paths, hcourse.passes⟩

/-- A chain that fails although it ends in an item comes to a path that was met before it
began. -/
theorem EndsIn.exists_met {item : α} {e : ReferenceError} (hend : t.EndsIn entry item)
    (h : (t.follow met entry).1 = .error e) :
    ∃ paths, ∃ path ∈ met, t.Passes entry paths (.ref path) := by
  obtain ⟨paths, last, hcourse⟩ := exists_course t met entry
  have hpasses := hcourse.passes
  have hhalts := hcourse.halts
  obtain ⟨others, hothers⟩ := hend
  obtain ⟨rest, _, hlast⟩ := hpasses.exists_rest hothers
  rw [h] at hhalts
  generalize (t.follow met entry).2 = after at hhalts
  cases hhalts with
  | circle hpath =>
      refine ⟨paths, _, hpath.resolve_right ?_, hpasses⟩
      exact hpasses.not_mem_of_endsIn ⟨others, hothers⟩
  | rejected _ _ hname =>
      cases hlast with
      | step hother _ _ => cases hname.symm.trans hother
  | missing _ _ hname htarget =>
      cases hlast with
      | step hother hlookup _ =>
          cases hname.symm.trans hother
          cases htarget.symm.trans hlookup

/-- A chain comes to a path that is no reference into the section. -/
def Rejects (t : Catalog α) (entry : OrRef α) (path : String) : Prop :=
  ∃ paths fault, t.Passes entry paths (.ref path) ∧ refName path t.part = .error fault

/-- No other path is left behind by a chain. -/
theorem mem_or_rejects_of_mem_follow (h : path ∈ (t.follow met entry).2) :
    path ∈ met ∨ t.Rejects entry path := by
  obtain ⟨paths, last, hcourse⟩ := exists_course t met entry
  have hpasses := hcourse.passes
  have hhalts := hcourse.halts
  generalize (t.follow met entry).1 = result, (t.follow met entry).2 = after at hhalts h
  cases hhalts with
  | item => exact .inl h
  | circle _ => exact .inl h
  | missing _ _ _ _ => exact .inl h
  | rejected _ _ hname =>
      rcases List.mem_cons.mp h with rfl | h
      · exact .inr ⟨paths, _, hpasses, hname⟩
      · exact .inl h

end ClientGen.Catalog
