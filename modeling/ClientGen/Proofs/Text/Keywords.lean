import ClientGen.Text.Blank
import Mathlib

/-!
# Keywords

A keyword is recognised inside the blanks around it and with each of its letters in either
case.  No letter is a blank, so it is found in the small letters of a trimmed text exactly if
the text spells it.

* `surrounds_trimChars`, `Surrounds.trimChars_eq`: what is inside the blanks around a text;
* `toLower_eq_iff`: a letter in either case;
* `Keyword.map_toLower_trimChars_eq_iff`, `Keyword.suffix_map_toLower_trimChars_iff`: a keyword
  as the whole of a text and at its end.
-/

namespace ClientGen

/-! ### Blanks around a text -/

/-- There are nothing but blanks around a text. -/
def Surrounds (text cs : List Char) : Prop :=
  ∃ front back, cs = front ++ text ++ back ∧
    (∀ c ∈ front, Text.isBlank c = true) ∧ ∀ c ∈ back, Text.isBlank c = true

/-- Nothing but blanks is removed in front. -/
theorem exists_trimFront (cs : List Char) :
    ∃ front, cs = front ++ Text.trimFront cs ∧ ∀ c ∈ front, Text.isBlank c = true := by
  refine ⟨cs.takeWhile Text.isBlank, List.takeWhile_append_dropWhile.symm, ?_⟩
  exact List.all_eq_true.mp List.all_takeWhile

/-- Trimming removes nothing but blanks. -/
theorem surrounds_trimChars (cs : List Char) : Surrounds (Text.trimChars cs) cs := by
  obtain ⟨front, hfront, hblank⟩ := exists_trimFront cs
  obtain ⟨back, hback, hblank'⟩ := exists_trimFront (Text.trimFront cs).reverse
  refine ⟨front, back.reverse, ?_, hblank, ?_⟩
  · have hrest := congrArg List.reverse hback
    rw [List.reverse_reverse, List.reverse_append] at hrest
    rw [List.append_assoc, Text.trimChars, Text.trimBack, ← hrest, ← hfront]
  · intro c hc
    exact hblank' c (List.mem_reverse.mp hc)

/-- In front of a text that does not start with a blank only what stands there is trimmed. -/
theorem trimFront_append {text : List Char} (front : List Char)
    (htext : ∀ c ∈ text.head?, Text.isBlank c = false) :
    Text.trimFront (front ++ text) = Text.trimFront front ++ text := by
  have hsolid : text.dropWhile Text.isBlank = text := by
    cases text with
    | nil => rfl
    | cons c rest => exact List.dropWhile_cons_of_neg (by simp [htext c rfl])
  rw [Text.trimFront, Text.trimFront, List.dropWhile_append, hsolid]
  split
  next hempty => rw [List.isEmpty_iff.mp hempty, List.nil_append]
  · rfl

/-- Blanks behind a text that does not end with one are all removed. -/
theorem trimBack_append {text back : List Char} (hback : ∀ c ∈ back, Text.isBlank c = true)
    (htext : ∀ c ∈ text.getLast?, Text.isBlank c = false) : Text.trimBack (text ++ back) = text := by
  have hblank : Text.trimFront back.reverse = [] :=
    List.dropWhile_eq_nil_iff.mpr fun c hc => hback c (List.mem_reverse.mp hc)
  rw [Text.trimBack, List.reverse_append, trimFront_append _ (by rwa [List.head?_reverse]),
    hblank, List.nil_append, List.reverse_reverse]

/-- Trimming stops at a text without blanks, and keeps what stands between it and the blanks. -/
theorem trimChars_append {front text back : List Char} (hback : ∀ c ∈ back, Text.isBlank c = true)
    (htext : ∀ c ∈ text, Text.isBlank c = false) (hne : text ≠ []) :
    Text.trimChars (front ++ text ++ back) = Text.trimFront front ++ text := by
  have hhead : ∀ c ∈ (text ++ back).head?, Text.isBlank c = false := by
    intro c hc
    rw [List.head?_append_of_ne_nil _ hne] at hc
    exact htext c (List.mem_of_mem_head? hc)
  have hlast : ∀ c ∈ (Text.trimFront front ++ text).getLast?, Text.isBlank c = false := by
    intro c hc
    rw [List.getLast?_append_of_ne_nil _ hne] at hc
    exact htext c (List.mem_of_mem_getLast? hc)
  rw [Text.trimChars, List.append_assoc, trimFront_append _ hhead, ← List.append_assoc,
    trimBack_append hback hlast]

/-- Trimming removes all blanks. -/
theorem Surrounds.trimChars_eq {text cs : List Char} (h : Surrounds text cs)
    (htext : ∀ c ∈ text, Text.isBlank c = false) (hne : text ≠ []) :
    Text.trimChars cs = text := by
  obtain ⟨front, back, rfl, hfront, hback⟩ := h
  have hblank : Text.trimFront front = [] := List.dropWhile_eq_nil_iff.mpr hfront
  rw [trimChars_append hback htext hne, hblank, List.nil_append]

/-! ### Letters in either case -/

/-- A small letter is what becomes of itself and of its capital. -/
theorem toLower_eq_iff {small c : Char} (hsmall : small.toLower = small) :
    c.toLower = small ↔ c = small ∨ c = small.toUpper := by
  constructor
  · intro h
    subst h
    by_cases hupper : c.isUpper = true
    · have hcapital : c.toUpper = c :=
        Char.toUpper_eq_of_not_isLower (Char.not_isLower_of_isUpper hupper)
      exact .inr (by rw [Char.toUpper_toLower_eq_toUpper, hcapital])
    · exact .inl (Char.toLower_eq_of_not_isUpper hupper).symm
  · intro h
    rcases h with rfl | rfl
    · exact hsmall
    · rw [Char.toLower_toUpper_eq_toLower, hsmall]

/-- Letters and digits are no blanks. -/
theorem isBlank_of_isAlphanum {c : Char} (h : c.isAlphanum = true) : Text.isBlank c = false := by
  have hrange : 48 ≤ c.toNat ∧ c.toNat ≤ 122 := by
    simp only [Char.isAlphanum, Char.isAlpha, Char.isUpper, Char.isLower, Char.isDigit,
      Bool.or_eq_true, Bool.and_eq_true, decide_eq_true_eq, UInt32.le_iff_toNat_le] at h
    rcases h with (h | h) | h
    · exact ⟨le_trans (by decide) h.1, h.2.trans (by decide)⟩
    · exact ⟨le_trans (by decide) h.1, h.2.trans (by decide)⟩
    · exact ⟨h.1, h.2.trans (by decide)⟩
  simp [Text.isBlank, Text.inRanges, Text.blankRanges]
  omega

/-- Letters are no blanks in either case. -/
theorem isBlank_toLower (c : Char) : Text.isBlank c.toLower = Text.isBlank c := by
  by_cases hletter : c.isAlpha = true
  · have hsmall : c.toLower.isAlpha = true := by rwa [Char.isAlpha_toLower_eq_isAlpha]
    rw [isBlank_of_isAlphanum (by rw [Char.isAlphanum, hsmall, Bool.true_or]),
      isBlank_of_isAlphanum (by rw [Char.isAlphanum, hletter, Bool.true_or])]
  · rw [Char.toLower_eq_of_not_isUpper fun hupper => hletter (by rw [Char.isAlpha, hupper]; rfl)]

/-! ### Keywords -/

/-- A word that is looked for in either case.  It is written in small letters and has no
blanks. -/
structure Keyword where
  text : String
  ne_nil : text.toList ≠ [] := by decide
  all_small : text.toList.all (fun c => c.toLower == c) = true := by decide
  all_solid : text.toList.all (fun c => !Text.isBlank c) = true := by decide

namespace Keyword

variable {word : Keyword} {text cs : List Char}

/-- A keyword stays as it is in small letters. -/
theorem small (word : Keyword) : ∀ c ∈ word.text.toList, c.toLower = c :=
  fun c hc => eq_of_beq (List.all_eq_true.mp word.all_small c hc)

/-- A keyword has no blanks. -/
theorem solid (word : Keyword) : ∀ c ∈ word.text.toList, Text.isBlank c = false :=
  fun c hc => (Bool.not_eq_true' _).mp (List.all_eq_true.mp word.all_solid c hc)

/-- A text spells a keyword: it is the word with some of its letters as capitals. -/
def IsSpelledBy (word : Keyword) (text : List Char) : Prop :=
  List.Forall₂ (fun small c => c = small ∨ c = small.toUpper) word.text.toList text

instance (word : Keyword) (text : List Char) : Decidable (word.IsSpelledBy text) :=
  inferInstanceAs (Decidable (List.Forall₂ _ _ _))

/-- **Spellings** are the texts that become the keyword in small letters. -/
theorem map_toLower_eq_iff : text.map Char.toLower = word.text.toList ↔ word.IsSpelledBy text := by
  rw [IsSpelledBy]
  generalize hchars : word.text.toList = chars
  have hsmall : ∀ c ∈ chars, c.toLower = c := hchars ▸ word.small
  clear hchars
  induction chars generalizing text with
  | nil => rw [List.map_eq_nil_iff, List.forall₂_nil_left_iff]
  | cons small rest ih =>
      cases text with
      | nil => exact iff_of_false (List.cons_ne_nil _ _).symm (by rintro ⟨⟩)
      | cons c text =>
          obtain ⟨hfirst, hrest⟩ := List.forall_mem_cons.mp hsmall
          rw [List.map_cons, List.cons.injEq, List.forall₂_cons, toLower_eq_iff hfirst]
          exact and_congr_right' (ih hrest)

/-- A spelling has no blanks. -/
theorem IsSpelledBy.solid (h : word.IsSpelledBy text) : ∀ c ∈ text, Text.isBlank c = false := by
  intro c hc
  rw [← isBlank_toLower]
  refine word.solid _ ?_
  rw [← map_toLower_eq_iff.mpr h]
  exact List.mem_map_of_mem hc

theorem IsSpelledBy.ne_nil (h : word.IsSpelledBy text) : text ≠ [] := by
  intro hnil
  have hchars := map_toLower_eq_iff.mpr h
  rw [hnil] at hchars
  exact word.ne_nil hchars.symm

/-- **A keyword as the whole.**  It is found in the small letters of a trimmed text exactly if
the text is a spelling of it with nothing but blanks around. -/
theorem map_toLower_trimChars_eq_iff :
    (Text.trimChars cs).map Char.toLower = word.text.toList ↔
      ∃ text, Surrounds text cs ∧ word.IsSpelledBy text := by
  constructor
  · intro h
    exact ⟨_, surrounds_trimChars cs, map_toLower_eq_iff.mp h⟩
  · intro h
    obtain ⟨text, hsurrounds, hspelled⟩ := h
    rw [hsurrounds.trimChars_eq hspelled.solid hspelled.ne_nil]
    exact map_toLower_eq_iff.mpr hspelled

/-- **A keyword at the end.**  The same for what a text ends with. -/
theorem suffix_map_toLower_trimChars_iff :
    word.text.toList <:+ (Text.trimChars cs).map Char.toLower ↔
      ∃ front text, Surrounds (front ++ text) cs ∧ word.IsSpelledBy text := by
  constructor
  · intro h
    obtain ⟨small, hsmall⟩ := h
    obtain ⟨front, text, htrimmed, _, htext⟩ := List.map_eq_append_iff.mp hsmall.symm
    refine ⟨front, text, ?_, map_toLower_eq_iff.mp htext⟩
    rw [← htrimmed]
    exact surrounds_trimChars cs
  · intro h
    obtain ⟨front, text, ⟨before, back, rfl, _, hback⟩, hspelled⟩ := h
    rw [← List.append_assoc, trimChars_append hback hspelled.solid hspelled.ne_nil, List.map_append,
      map_toLower_eq_iff.mpr hspelled]
    exact List.suffix_append _ _

end Keyword

end ClientGen
