import ClientGen.Text.Alphanumeric
import ClientGen.Text.Casing
import Mathlib.Data.List.Basic

/-!
# Characters of words

A word character is a letter or a digit of ASCII, or any character beyond ASCII; what is
left out are the punctuation, the blanks and the controls of ASCII.  Every alphanumeric
character is one, and changing the case of one gives only such characters again: a case
table moves whole runs of code points, and no run ends up among the ASCII characters
unless it is a single letter.

* `areWordCodes`: the test of a run at its new place, which all rows of the tables pass;
* `isWordChar_of_mem_upper`, `isWordChar_of_mem_lower`: the two mappings.
-/

namespace ClientGen.Text

/-- A letter or a digit of ASCII, or a character beyond ASCII. -/
def IsWordChar (c : Char) : Prop := c.isAlphanum = true ∨ 0x80 ≤ c.toNat

/-- Letters and digits of any script are word characters. -/
theorem isWordChar_of_isAlphanumeric {c : Char} (h : isAlphanumeric c = true) : IsWordChar c := by
  rw [isAlphanumeric, Bool.or_eq_true] at h
  rcases h with hascii | hrange
  · exact .inl hascii
  · rw [Bool.and_eq_true, decide_eq_true_iff] at hrange
    exact .inr hrange.1

/-! ### Code points -/

/-- A run of code points holds word characters only: it is beyond ASCII and does not touch
the surrogates, or it is a single letter or digit. -/
def areWordCodes (first last : Int) : Bool :=
  (0x80 ≤ first && last < 0xD800) || (0xDFFF < first && last < 0x110000)
    || (first == last && (Char.ofNat first.toNat).isAlphanum)

/-- A code point beyond ASCII that is no surrogate is that of a word character. -/
theorem isWordChar_ofNat {n : Nat} (hvalid : n.isValidChar) (hn : 0x80 ≤ n) :
    IsWordChar (Char.ofNat n) := by
  have hcode : (Char.ofNat n).toNat = n := by
    rw [Char.ofNat, dif_pos hvalid]
    rfl
  exact .inr (by rwa [hcode])

theorem isWordChar_of_areWordCodes {first last n : Int} (h : areWordCodes first last = true)
    (hfirst : first ≤ n) (hlast : n ≤ last) : IsWordChar (Char.ofNat n.toNat) := by
  simp only [areWordCodes, Bool.or_eq_true, Bool.and_eq_true, decide_eq_true_iff,
    beq_iff_eq] at h
  rcases h with (⟨hlow, hhigh⟩ | ⟨hlow, hhigh⟩) | ⟨hsame, hletter⟩
  · exact isWordChar_ofNat (.inl (by omega)) (by omega)
  · exact isWordChar_ofNat (.inr ⟨by omega, by omega⟩) (by omega)
  · have hn : n = first := by omega
    rw [hn]
    exact .inl hletter

/-! ### Case tables -/

/-- Where a table moves a code point, one of its rows does. -/
theorem exists_row_of_shiftOf? {table : List (Nat × Nat × Nat × Int)} {n : Nat} {d : Int}
    (h : shiftOf? table n = some d) :
    ∃ first last step, (first, last, step, d) ∈ table ∧ first ≤ n ∧ n ≤ last := by
  obtain ⟨⟨first, last, step, distance⟩, hrow, rfl⟩ := Option.map_eq_some_iff.mp h
  have hrun := List.find?_some hrow
  simp only [inRun, Bool.and_eq_true, decide_eq_true_iff] at hrun
  exact ⟨first, last, step, List.mem_of_find?_eq_some hrow, hrun.1.1, hrun.1.2⟩

/-- All rows of a table move their runs to word characters. -/
def KeepsWords (table : List (Nat × Nat × Nat × Int)) : Prop :=
  ∀ row ∈ table, areWordCodes (row.1 + row.2.2.2) (row.2.1 + row.2.2.2) = true

/-- A table that has been checked moves every character it moves to a word character. -/
theorem KeepsWords.isWordChar_shifted {table : List (Nat × Nat × Nat × Int)} {c : Char} {d : Int}
    (h : KeepsWords table) (hd : shiftOf? table c.toNat = some d) : IsWordChar (shifted c d) := by
  obtain ⟨first, last, step, hrow, hfirst, hlast⟩ := exists_row_of_shiftOf? hd
  exact isWordChar_of_areWordCodes (h _ hrow) (by simpa using hfirst) (by simpa using hlast)

theorem keepsWords_uppercaseShifts : KeepsWords uppercaseShifts := by
  unfold KeepsWords
  decide +kernel

theorem keepsWords_lowercaseShifts : KeepsWords lowercaseShifts := by
  unfold KeepsWords
  decide +kernel

/-- The uppercase forms of several characters are word characters, each of them. -/
theorem areWordCodes_uppercaseExpansions :
    ∀ row ∈ uppercaseExpansions, ∀ code ∈ row.2, areWordCodes code code = true := by
  decide +kernel

/-! ### The two mappings -/

/-- The letters and digits of ASCII keep to themselves. -/
theorem isAlphanum_cased {c : Char} (hascii : c.toNat < 0x80) (h : c.isAlphanum = true) :
    c.toUpper.isAlphanum = true ∧ c.toLower.isAlphanum = true := by
  have hall : ∀ n < 0x80, (Char.ofNat n).isAlphanum = true →
      (Char.ofNat n).toUpper.isAlphanum = true ∧ (Char.ofNat n).toLower.isAlphanum = true := by
    decide +kernel
  have hc := hall c.toNat hascii
  rw [Char.ofNat_toNat] at hc
  exact hc h

/-- **Uppercase.**  The uppercase form of a word character consists of word characters. -/
theorem isWordChar_of_mem_upper {c d : Char} (hc : IsWordChar c) (hd : d ∈ upper c) :
    IsWordChar d := by
  unfold upper at hd
  split at hd
  next hascii =>
    have hletter := hc.resolve_right (by omega)
    rw [List.mem_singleton.mp hd]
    exact .inl (isAlphanum_cased hascii hletter).1
  · split at hd
    next codes hcodes =>
      obtain ⟨code, hcode, rfl⟩ := List.mem_map.mp hd
      obtain ⟨before, after, htable, _⟩ := List.lookup_eq_some_iff.mp hcodes
      have hrow : (c.toNat, codes) ∈ uppercaseExpansions := by simp [htable]
      have hcodes := areWordCodes_uppercaseExpansions _ hrow code hcode
      have hword := isWordChar_of_areWordCodes hcodes (Int.le_refl _) (Int.le_refl _)
      rwa [Int.toNat_natCast] at hword
    · split at hd
      next distance hdistance =>
        rw [List.mem_singleton.mp hd]
        exact keepsWords_uppercaseShifts.isWordChar_shifted hdistance
      · rw [List.mem_singleton.mp hd]
        exact hc

/-- **Lowercase.**  So does the lowercase form. -/
theorem isWordChar_of_mem_lower {c d : Char} (hc : IsWordChar c) (hd : d ∈ lower c) :
    IsWordChar d := by
  unfold lower at hd
  split at hd
  next hascii =>
    have hletter := hc.resolve_right (by omega)
    rw [List.mem_singleton.mp hd]
    exact .inl (isAlphanum_cased hascii hletter).2
  · split at hd
    · rcases List.mem_pair.mp hd with rfl | rfl
      · exact .inl (by decide)
      · exact .inr (by decide)
    · split at hd
      next distance hdistance =>
        rw [List.mem_singleton.mp hd]
        exact keepsWords_lowercaseShifts.isWordChar_shifted hdistance
      · rw [List.mem_singleton.mp hd]
        exact hc

/-- Every character has a lowercase form. -/
theorem lower_ne_nil (c : Char) : lower c ≠ [] := by
  unfold lower
  split
  · simp
  · split
    · simp
    · split <;> simp

end ClientGen.Text
