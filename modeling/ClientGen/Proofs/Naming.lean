import ClientGen.Naming
import ClientGen.Proofs.Text.WordCharacters

/-!
# What names are made of

The words of a text hold alphanumeric characters only, and the casings that are put
together from words add nothing but the case of their letters.

* `isWord_of_mem_words`, `ne_nil_of_mem_words`: the words of a text;
* `isWord_pascal`: the capitalized words side by side;
* `isWord_camel`, `camel_ne_empty`: the same with the first word in lowercase.
-/

namespace ClientGen.Naming

open Text (IsWordChar)

/-- All characters of a word are word characters. -/
def IsWord (word : List Char) : Prop := ∀ c ∈ word, IsWordChar c

/-- A word may have one more character of words. -/
theorem isWord_cons {c : Char} {word : List Char} (hc : IsWordChar c) (h : IsWord word) :
    IsWord (c :: word) := by
  intro d hd
  rcases List.mem_cons.mp hd with rfl | hd
  · exact hc
  · exact h d hd

/-- Finishing a word leaves its characters as they are. -/
theorem isWord_of_mem_finished {acc word : List Char} (hacc : IsWord acc)
    (h : word ∈ finished acc) : IsWord word := by
  cases acc with
  | nil => cases h
  | cons c acc =>
      rw [List.mem_singleton.mp h]
      exact fun d hd => hacc d (List.mem_reverse.mp hd)

/-- The cut goes through the text with a word under way, to which only alphanumeric
characters are added. -/
theorem isWord_of_mem_wordsFrom {m : WordCase} {acc cs word : List Char} (hacc : IsWord acc)
    (h : word ∈ wordsFrom m acc cs) : IsWord word := by
  have hnil : IsWord [] := fun _ hc => absurd hc List.not_mem_nil
  fun_induction wordsFrom m acc cs with
  | case1 m acc => exact isWord_of_mem_finished hacc h
  | case2 m acc c rest _ ih =>
      rcases List.mem_append.mp h with h | h
      · exact isWord_of_mem_finished hacc h
      · exact ih hnil h
  | case3 m acc c rest hc _ ih =>
      have hword : IsWordChar c := Text.isWordChar_of_isAlphanumeric (by simpa using hc)
      rcases List.mem_append.mp h with h | h
      · exact isWord_of_mem_finished (isWord_cons hword hacc) h
      · exact ih hnil h
  | case4 m acc c rest hc _ _ ih =>
      have hword : IsWordChar c := Text.isWordChar_of_isAlphanumeric (by simpa using hc)
      rcases List.mem_append.mp h with h | h
      · exact isWord_of_mem_finished hacc h
      · exact ih (isWord_cons hword hnil) h
  | case5 m acc c rest hc _ _ ih =>
      have hword : IsWordChar c := Text.isWordChar_of_isAlphanumeric (by simpa using hc)
      exact ih (isWord_cons hword hacc) h

/-- **Words.**  The words of a text hold word characters only. -/
theorem isWord_of_mem_words {s : String} {word : List Char} (h : word ∈ words s) :
    IsWord word := by
  unfold words at h
  split at h
  · rw [List.mem_singleton.mp h]
    simp [IsWord, Text.IsWordChar]
  · exact isWord_of_mem_wordsFrom (fun _ hc => absurd hc List.not_mem_nil) h

theorem isWord_lowered {word : List Char} (h : IsWord word) : IsWord (lowered word) := by
  fun_induction lowered word with
  | case1 => exact h
  | case2 =>
      intro c hc
      rw [List.mem_singleton.mp hc]
      exact .inr (by decide)
  | case3 c rest _ ih =>
      intro d hd
      rcases List.mem_append.mp hd with hd | hd
      · exact Text.isWordChar_of_mem_lower (h c List.mem_cons_self) hd
      · exact ih (fun e he => h e (List.mem_cons_of_mem _ he)) d hd

theorem isWord_uppered {word : List Char} (h : IsWord word) : IsWord (uppered word) := by
  intro d hd
  obtain ⟨c, hc, hd⟩ := List.mem_flatMap.mp hd
  exact Text.isWordChar_of_mem_upper (h c hc) hd

theorem isWord_capitalized {word : List Char} (h : IsWord word) : IsWord (capitalized word) := by
  cases word with
  | nil => exact h
  | cons c rest =>
      intro d hd
      rcases List.mem_append.mp hd with hd | hd
      · exact Text.isWordChar_of_mem_upper (h c List.mem_cons_self) hd
      · exact isWord_lowered (fun e he => h e (List.mem_cons_of_mem _ he)) d hd

/-- **Capitalized words.**  The capitalized words of a text, side by side, hold word
characters only. -/
theorem isWord_pascal (s : String) : IsWord (Name.ofText s).pascal.toList := by
  intro c hc
  have hpascal : (Name.ofText s).pascal = String.ofList ((words s).flatMap capitalized) := rfl
  rw [hpascal, String.toList_ofList] at hc
  obtain ⟨word, hword, hc⟩ := List.mem_flatMap.mp hc
  exact isWord_capitalized (isWord_of_mem_words hword) c hc

/-! ### The first word in lowercase -/

/-- A word under way is finished only if it has a letter. -/
theorem ne_nil_of_mem_finished {acc word : List Char} (h : word ∈ finished acc) : word ≠ [] := by
  cases acc with
  | nil => cases h
  | cons c acc =>
      rw [List.mem_singleton.mp h]
      simp

/-- Words are not empty. -/
theorem ne_nil_of_mem_wordsFrom {m : WordCase} {acc cs word : List Char}
    (h : word ∈ wordsFrom m acc cs) : word ≠ [] := by
  fun_induction wordsFrom m acc cs with
  | case1 m acc => exact ne_nil_of_mem_finished h
  | case2 m acc c rest _ ih => exact (List.mem_append.mp h).elim ne_nil_of_mem_finished ih
  | case3 m acc c rest _ _ ih => exact (List.mem_append.mp h).elim ne_nil_of_mem_finished ih
  | case4 m acc c rest _ _ _ ih => exact (List.mem_append.mp h).elim ne_nil_of_mem_finished ih
  | case5 m acc c rest _ _ _ ih => exact ih h

/-- No word is empty. -/
theorem ne_nil_of_mem_words {s : String} {word : List Char} (h : word ∈ words s) :
    word ≠ [] := by
  unfold words at h
  split at h
  · rw [List.mem_singleton.mp h]
    simp
  · exact ne_nil_of_mem_wordsFrom h

/-- Every text has a word. -/
theorem words_ne_nil (s : String) : words s ≠ [] := by
  unfold words
  split
  · exact List.cons_ne_nil _ _
  next hwords => exact hwords

theorem lowered_ne_nil {word : List Char} (h : word ≠ []) : lowered word ≠ [] := by
  fun_cases lowered word with
  | case1 => exact h
  | case2 => simp
  | case3 c rest _ => simp [Text.lower_ne_nil c]

/-- The words of a text with the first in lowercase. -/
theorem exists_camel_eq (s : String) : ∃ word rest, words s = word :: rest ∧
    (Name.ofText s).camel.toList = lowered word ++ rest.flatMap capitalized := by
  obtain ⟨word, rest, hwords⟩ := List.exists_cons_of_ne_nil (words_ne_nil s)
  have hcamel : (Name.ofText s).camel = camel (words s) := rfl
  exact ⟨word, rest, hwords, by rw [hcamel, hwords, camel, String.toList_ofList]⟩

/-- **Words side by side, the first in lowercase.**  They hold word characters only. -/
theorem isWord_camel (s : String) : IsWord (Name.ofText s).camel.toList := by
  obtain ⟨word, rest, hwords, hcamel⟩ := exists_camel_eq s
  have hword : ∀ w ∈ word :: rest, IsWord w := fun w hw => isWord_of_mem_words (hwords ▸ hw)
  intro c hc
  rw [hcamel] at hc
  rcases List.mem_append.mp hc with hc | hc
  · exact isWord_lowered (hword word List.mem_cons_self) c hc
  · obtain ⟨w, hw, hc⟩ := List.mem_flatMap.mp hc
    exact isWord_capitalized (hword w (List.mem_cons_of_mem _ hw)) c hc

/-- No text has an empty name in camel case. -/
theorem camel_ne_empty (s : String) : (Name.ofText s).camel ≠ "" := by
  obtain ⟨word, rest, hwords, hcamel⟩ := exists_camel_eq s
  have hword : word ∈ words s := hwords ▸ List.mem_cons_self
  intro hempty
  rw [hempty] at hcamel
  have hlowered := (List.append_eq_nil_iff.mp hcamel.symm).1
  exact lowered_ne_nil (ne_nil_of_mem_words hword) hlowered

end ClientGen.Naming
