import ClientGen.Kotlin.Lexical
import Mathlib.Data.List.Chain

/-!
# What Kotlin reads as a block comment

Block comments nest: a comment goes on until each `/*` in it, its own one included, has met a
`*/`.  Its delimiters are read from the left and none takes a character of another, so `/*/`
opens a comment and does not close one.

Text that `commentChars` has made has no delimiter anywhere, and two of its characters, or one
of them and a neighbour outside, can make a delimiter only side by side.  So a text is free of
delimiters exactly if all neighbours in it are `Apart`, and texts may be joined as long as the
two characters at the seam are.

* `isFree_commentChars`: what is left of a text that goes into a comment;
* `afterInner?_append_of_isFree`: text without delimiters is passed over;
* `afterInner?_append`: text with delimiters, which may close the comment it stands in.
-/

namespace ClientGen.Kotlin

/-! ### Reading -/

/-- What stands behind a comment, read from inside it and from inside `depth` more comments
in it; nothing if the comment is not closed. -/
def afterInner? : Nat → List Char → Option (List Char)
  | depth, '/' :: '*' :: rest => afterInner? (depth + 1) rest
  | 0, '*' :: '/' :: rest => some rest
  | depth + 1, '*' :: '/' :: rest => afterInner? depth rest
  | depth, _ :: rest => afterInner? depth rest
  | _, [] => none

/-- What stands behind the comment at the start of a source. -/
def afterComment? : List Char → Option (List Char)
  | '/' :: '*' :: rest => afterInner? 0 rest
  | _ => none

/-! ### Text without delimiters -/

/-- Two characters side by side are no delimiter. -/
def Apart (a b : Char) : Prop := ¬(a = '/' ∧ b = '*') ∧ ¬(a = '*' ∧ b = '/')

/-- A text has no delimiter in it. -/
def IsFree (cs : List Char) : Prop := cs.IsChain Apart

theorem apart_left {a b : Char} (ha : a ≠ '/' ∧ a ≠ '*') : Apart a b :=
  ⟨fun h => ha.1 h.1, fun h => ha.2 h.1⟩

theorem apart_right {a b : Char} (hb : b ≠ '/' ∧ b ≠ '*') : Apart a b :=
  ⟨fun h => hb.2 h.2, fun h => hb.1 h.2⟩

variable {cs ds : List Char} {c : Char} {depth : Nat}

/-- A text is free if its first two characters are apart and the rest is free. -/
theorem isFree_cons_iff : IsFree (c :: cs) ↔ (∀ d ∈ cs.head?, Apart c d) ∧ IsFree cs :=
  List.isChain_cons

/-- Two texts are free together if they are apart where they meet. -/
theorem isFree_append_iff : IsFree (cs ++ ds) ↔
    IsFree cs ∧ IsFree ds ∧ ∀ c ∈ cs.getLast?, ∀ d ∈ ds.head?, Apart c d :=
  List.isChain_append

/-- A character between two texts that has no part in delimiters keeps them apart. -/
theorem isFree_append_cons (hc : c ≠ '/' ∧ c ≠ '*') (hcs : IsFree cs) (hds : IsFree ds) :
    IsFree (cs ++ c :: ds) := by
  refine isFree_append_iff.mpr ⟨hcs, isFree_cons_iff.mpr ⟨?_, hds⟩, ?_⟩
  · intro d _
    exact apart_left hc
  · intro b _ d hd
    rw [← Option.some.inj hd]
    exact apart_right hc

/-- A text without slashes has no delimiter. -/
theorem isFree_of_not_mem (h : '/' ∉ cs) : IsFree cs := by
  induction cs with
  | nil => exact List.isChain_nil
  | cons c cs ih =>
      rw [List.mem_cons, not_or] at h
      refine isFree_cons_iff.mpr ⟨fun d hd => ?_, ih h.2⟩
      have hslash : d ≠ '/' := fun heq => h.2 (heq ▸ List.mem_of_mem_head? hd)
      exact ⟨fun hpair => h.1 hpair.1.symm, fun hpair => hslash hpair.2⟩

/-- A free text has no delimiter in the middle. -/
theorem IsFree.apart {front back : List Char} {a b : Char} (h : IsFree (front ++ a :: b :: back)) :
    Apart a b := by
  have htail := (isFree_append_iff.mp h).2.1
  exact (isFree_cons_iff.mp htail).1 b rfl

/-! ### Text for comments -/

/-- Two characters side by side are no closing delimiter. -/
def NoCloser (a b : Char) : Prop := ¬(a = '*' ∧ b = '/')

theorem noCloser_of_ne {a b : Char} (ha : a ≠ '*') : NoCloser a b := fun h => ha h.1

/-- Taking out closers keeps the first character. -/
theorem head?_withoutClosers (cs : List Char) : (withoutClosers cs).head? = cs.head? := by
  fun_cases withoutClosers cs <;> rfl

/-- The slash of each closing delimiter is gone, and what replaces it makes no new one. -/
theorem isChain_withoutClosers (cs : List Char) : (withoutClosers cs).IsChain NoCloser := by
  fun_induction withoutClosers cs with
  | case1 rest ih =>
      have hreference : (slashReference ++ withoutClosers rest).IsChain NoCloser := by
        have hfree : IsFree slashReference := isFree_of_not_mem (by decide)
        refine List.isChain_append.mpr ⟨hfree.imp fun _ _ h => h.2, ih, fun a ha b _ => ?_⟩
        have hlast : a = ';' := by simpa [slashReference] using ha.symm
        exact noCloser_of_ne (by rw [hlast]; decide)
      refine List.isChain_cons.mpr ⟨fun b hb => ?_, hreference⟩
      have hfirst : b = '&' := by simpa [slashReference] using hb.symm
      exact fun h => absurd h.2 (by rw [hfirst]; decide)
  | case2 c rest hother ih =>
      refine List.isChain_cons.mpr ⟨fun b hb hcloser => ?_, ih⟩
      rw [head?_withoutClosers] at hb
      obtain ⟨tail, htail⟩ := List.head?_eq_some_iff.mp hb
      exact hother tail hcloser.1 (by rw [htail, hcloser.2])
  | case3 => exact List.isChain_nil

/-- Taking out openers keeps the first character or puts a reference in its place. -/
theorem eq_or_of_mem_head?_withoutOpeners {d : Char} (h : d ∈ (withoutOpeners cs).head?) :
    d = '&' ∨ d ∈ cs.head? := by
  revert h
  fun_cases withoutOpeners cs with
  | case1 rest =>
      intro h
      exact .inl (Option.some.inj h).symm
  | case2 c rest =>
      intro h
      exact .inr h
  | case3 =>
      intro h
      cases h

/-- The slash of each opening delimiter is gone, and the star that stays behind closes nothing
that was not closed before. -/
theorem isFree_withoutOpeners (h : cs.IsChain NoCloser) : IsFree (withoutOpeners cs) := by
  fun_induction withoutOpeners cs with
  | case1 rest ih =>
      obtain ⟨_, hstar⟩ := List.isChain_cons.mp h
      obtain ⟨hnext, hrest⟩ := List.isChain_cons.mp hstar
      have hbehind : IsFree ('*' :: withoutOpeners rest) := by
        refine isFree_cons_iff.mpr ⟨fun d hd => ?_, ih hrest⟩
        refine ⟨fun hopener => absurd hopener.1 (by decide), fun hcloser => ?_⟩
        rcases eq_or_of_mem_head?_withoutOpeners hd with hreference | hsame
        · exact absurd (hreference.symm.trans hcloser.2) (by decide)
        · exact hnext d hsame hcloser
      have hreference : IsFree slashReference := isFree_of_not_mem (by decide)
      refine isFree_append_iff.mpr ⟨hreference, hbehind, fun c hc d _ => apart_left ?_⟩
      have hlast : c = ';' := by simpa [slashReference] using hc.symm
      rw [hlast]
      decide
  | case2 c rest hother ih =>
      obtain ⟨hnext, hrest⟩ := List.isChain_cons.mp h
      refine isFree_cons_iff.mpr ⟨fun d hd => ?_, ih hrest⟩
      rcases eq_or_of_mem_head?_withoutOpeners hd with hreference | hsame
      · exact apart_right (by rw [hreference]; decide)
      · refine ⟨fun hopener => ?_, hnext d hsame⟩
        obtain ⟨tail, htail⟩ := List.head?_eq_some_iff.mp hsame
        exact hother tail hopener.1 (by rw [htail, hopener.2])
  | case3 => exact List.isChain_nil

/-- **Text for comments** has no delimiter in it, neither one it was given nor one that the
replacements have made of each other. -/
theorem isFree_commentChars (cs : List Char) : IsFree (commentChars cs) :=
  isFree_withoutOpeners (isChain_withoutClosers cs)

/-! ### Passing over text -/

/-- A character that makes no delimiter with the next one is passed over. -/
theorem afterInner?_cons (h : ∀ d ∈ cs.head?, Apart c d) :
    afterInner? depth (c :: cs) = afterInner? depth cs := by
  cases cs with
  | nil => cases depth <;> simp [afterInner?]
  | cons d rest =>
      obtain ⟨hopener, hcloser⟩ := h d rfl
      rw [afterInner?]
      · intro tail hc htail
        exact hopener ⟨hc, (List.cons.inj htail).1⟩
      · intro tail _ hc htail
        exact hcloser ⟨hc, (List.cons.inj htail).1⟩
      · intro n tail _ hc htail
        exact hcloser ⟨hc, (List.cons.inj htail).1⟩

/-- **Free text** is passed over, if it makes no delimiter with what follows it. -/
theorem afterInner?_append_of_isFree (hcs : IsFree cs)
    (hseam : ∀ c ∈ cs.getLast?, ∀ d ∈ ds.head?, Apart c d) :
    afterInner? depth (cs ++ ds) = afterInner? depth ds := by
  have hall : IsFree (cs ++ ds.head?.toList) := by
    refine isFree_append_iff.mpr ⟨hcs, ?_, fun c hc d hd => ?_⟩
    · cases ds.head? <;> simp [IsFree]
    · exact hseam c hc d (by cases h : ds.head? <;> simp_all)
  clear hcs hseam
  induction cs with
  | nil => rfl
  | cons c cs ih =>
      obtain ⟨hnext, hrest⟩ := isFree_cons_iff.mp hall
      rw [List.cons_append, afterInner?_cons ?_, ih hrest]
      intro d hd
      refine hnext d ?_
      cases cs with
      | nil => simpa using hd
      | cons b cs => exact hd

/-- So is text without slashes that ends with a blank. -/
theorem afterInner?_append_blank (hcs : '/' ∉ cs) :
    afterInner? depth (cs ++ ' ' :: ds) = afterInner? depth ds := by
  have hfree : IsFree (cs ++ [' ']) :=
    isFree_append_cons (by decide) (isFree_of_not_mem hcs) List.isChain_nil
  have hseam : ∀ c ∈ (cs ++ [' ']).getLast?, ∀ d ∈ ds.head?, Apart c d := by
    intro c hc d _
    rw [List.getLast?_concat] at hc
    exact apart_left (by rw [← Option.some.inj hc]; decide)
  rw [List.append_cons]
  exact afterInner?_append_of_isFree hfree hseam

/-- Less is left behind a comment than was there. -/
theorem length_lt_of_afterInner? (h : afterInner? depth cs = some ds) : ds.length < cs.length := by
  fun_induction afterInner? depth cs with
  | case1 depth rest ih =>
      have hlt := ih h
      simp only [List.length_cons]
      omega
  | case2 rest =>
      rw [Option.some.inj h]
      simp only [List.length_cons]
      omega
  | case3 depth rest ih =>
      have hlt := ih h
      simp only [List.length_cons]
      omega
  | case4 depth c rest _ _ _ ih =>
      have hlt := ih h
      simp only [List.length_cons]
      omega
  | case5 => cases h

/-! ### Text with delimiters -/

/-- What a text can do to the depth of the comment it stands in. -/
inductive Delimiter where
  | opening
  | closing
  deriving DecidableEq, Repr

/-- The delimiters of a text. -/
def delimiters : List Char → List Delimiter
  | '/' :: '*' :: rest => .opening :: delimiters rest
  | '*' :: '/' :: rest => .closing :: delimiters rest
  | _ :: rest => delimiters rest
  | [] => []

/-- How many comments are open in a comment behind some delimiters, if `depth` were before
them; nothing if they close the comment itself. -/
def depthAfter? : Nat → List Delimiter → Option Nat
  | depth, [] => some depth
  | depth, .opening :: rest => depthAfter? (depth + 1) rest
  | 0, .closing :: _ => none
  | depth + 1, .closing :: rest => depthAfter? depth rest

/-- Delimiters that belong together: each closes a comment that was opened among them, and
all that were opened are closed. -/
structure Balanced (ds : List Delimiter) : Prop where
  closes_own : ∀ front, front <+: ds → front.count .closing ≤ front.count .opening
  closes_all : ds.count .closing = ds.count .opening

/-- Delimiters lead from one depth to another if no front of them closes more than is open. -/
theorem depthAfter?_eq_some_iff {ds : List Delimiter} {n : Nat} :
    depthAfter? depth ds = some n ↔
      (∀ front, front <+: ds → front.count .closing ≤ depth + front.count .opening) ∧
        n + ds.count .closing = depth + ds.count .opening := by
  induction ds generalizing depth with
  | nil => simp [depthAfter?, eq_comm]
  | cons d ds ih =>
      have hfronts : (∀ front, front <+: d :: ds →
          front.count .closing ≤ depth + front.count .opening) ↔
          ∀ front, front <+: ds →
            (d :: front).count .closing ≤ depth + (d :: front).count .opening := by
        constructor
        · intro h front hfront
          exact h _ (List.cons_prefix_cons.mpr ⟨rfl, hfront⟩)
        · intro h front hfront
          rcases List.prefix_cons_iff.mp hfront with rfl | ⟨tail, rfl, htail⟩
          · exact Nat.zero_le _
          · exact h tail htail
      rw [hfronts]
      cases d with
      | opening =>
          simp only [List.count_cons_self, List.count_cons_of_ne, ne_eq, reduceCtorEq,
            not_false_eq_true]
          rw [depthAfter?, ih]
          exact and_congr (forall₂_congr fun front _ => by omega) (by omega)
      | closing =>
          simp only [List.count_cons_self, List.count_cons_of_ne, ne_eq, reduceCtorEq,
            not_false_eq_true]
          cases depth with
          | zero =>
              -- The first delimiter closes what was not opened among them.
              refine iff_of_false (by simp [depthAfter?]) fun h => ?_
              have hfirst := h.1 [] List.nil_prefix
              simp at hfirst
          | succ depth =>
              rw [depthAfter?, ih]
              exact and_congr (forall₂_congr fun front _ => by omega) (by omega)

/-- Balanced delimiters are those that leave the depth as it is and never close the comment
they stand in. -/
theorem depthAfter?_eq_zero_iff {ds : List Delimiter} :
    depthAfter? 0 ds = some 0 ↔ Balanced ds := by
  rw [depthAfter?_eq_some_iff]
  simp only [Nat.zero_add]
  exact ⟨fun h => ⟨h.1, h.2⟩, fun h => ⟨h.closes_own, h.closes_all⟩⟩

/-- **Any text** is passed over to where its delimiters lead, or it closes the comment before
its end.  What follows it must have no part in delimiters. -/
theorem afterInner?_append (hds : ∀ d ∈ ds.head?, d ≠ '/' ∧ d ≠ '*') (cs : List Char)
    (depth : Nat) :
    match depthAfter? depth (delimiters cs) with
    | some n => afterInner? depth (cs ++ ds) = afterInner? n ds
    | none => ∃ behind, afterInner? depth (cs ++ ds) = some (behind ++ ds) := by
  fun_induction delimiters cs generalizing depth with
  | case1 rest ih =>
      have hnext := ih (depth + 1)
      simpa only [depthAfter?, List.cons_append, afterInner?] using hnext
  | case2 rest ih =>
      cases depth with
      | zero => exact ⟨rest, rfl⟩
      | succ depth =>
          have hnext := ih depth
          simpa only [depthAfter?, List.cons_append, afterInner?] using hnext
  | case3 c rest hopener hcloser ih =>
      have hnext : ∀ d ∈ (rest ++ ds).head?, Apart c d := by
        intro d hd
        cases rest with
        | nil => exact apart_right (hds d hd)
        | cons b rest =>
            have hb : b = d := Option.some.inj hd
            refine ⟨fun h => hopener rest h.1 ?_, fun h => hcloser rest h.1 ?_⟩
            · rw [hb, h.2]
            · rw [hb, h.2]
      rw [List.cons_append, afterInner?_cons hnext]
      exact ih depth
  | case4 => rfl

end ClientGen.Kotlin
