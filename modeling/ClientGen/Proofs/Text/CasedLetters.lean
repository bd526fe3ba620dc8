import ClientGen.Text.Alphanumeric
import ClientGen.Text.Casing
import Mathlib

/-!
# Letters whose case is changed

The other case of an alphanumeric character is alphanumeric again, but for the few letters
that Unicode has in one case only and spells in the other with a combining mark, which is
not.  Digits have no case, and no letter becomes one.

The case tables are lists of runs, so they are checked run by run.  The alphanumeric code
points are the bits of one number for that: where a whole run is moved into them, two
operations on that number tell it for all members at once (`holdsAll`).

* `forall_mem_upper_iff`, `forall_mem_lower_iff`: which letters stay alphanumeric;
* `isDigit_of_mem_upper`, `isDigit_of_mem_lower`: digits.
-/

namespace ClientGen.Text

/-! ### Code points as bits -/

/-- The code points of some ranges as the bits of a number. -/
def rangeBits (ranges : List (Nat × Nat)) : Nat :=
  ranges.foldl (fun bits range => bits ||| (2 ^ (range.2 + 1 - range.1) - 1) <<< range.1) 0

/-- A bit is set exactly for the members of the ranges. -/
theorem testBit_rangeBits (ranges : List (Nat × Nat)) (n : Nat) :
    (rangeBits ranges).testBit n = inRanges ranges n := by
  have hrange : ∀ range : Nat × Nat,
      ((2 ^ (range.2 + 1 - range.1) - 1) <<< range.1).testBit n =
        (decide (range.1 ≤ n) && decide (n ≤ range.2)) := by
    intro range
    rw [Nat.testBit_shiftLeft, Nat.testBit_two_pow_sub_one, Bool.eq_iff_iff]
    simp only [Bool.and_eq_true, decide_eq_true_iff]
    omega
  have hfold : ∀ bits : Nat, (ranges.foldl (fun bits range =>
      bits ||| (2 ^ (range.2 + 1 - range.1) - 1) <<< range.1) bits).testBit n =
        (bits.testBit n || inRanges ranges n) := by
    induction ranges with
    | nil => simp [inRanges]
    | cons range rest ih =>
        intro bits
        rw [List.foldl_cons, ih, Nat.testBit_or, hrange, Bool.or_assoc]
        rfl
  rw [rangeBits, hfold, Nat.zero_testBit, Bool.false_or]

/-- The alphanumeric code points beyond ASCII. -/
def alphanumericBits : Nat := rangeBits alphanumericRanges

/-- Beyond ASCII a character is alphanumeric if its bit is set. -/
theorem isAlphanumeric_eq (c : Char) : isAlphanumeric c =
    (c.isAlphanum || (decide (0x80 ≤ c.toNat) && alphanumericBits.testBit c.toNat)) := by
  rw [isAlphanumeric, alphanumericBits, testBit_rangeBits]

/-- All code points from one to another are set. -/
def holdsAll (first last : Nat) : Bool :=
  (alphanumericBits >>> first) % 2 ^ (last + 1 - first) == 2 ^ (last + 1 - first) - 1

/-- A run that passes the test has all its bits set. -/
theorem testBit_of_holdsAll {first last n : Nat} (h : holdsAll first last = true)
    (hfirst : first ≤ n) (hlast : n ≤ last) : alphanumericBits.testBit n = true := by
  have hbits := congrArg (Nat.testBit · (n - first)) (eq_of_beq h)
  simp only [Nat.testBit_mod_two_pow, Nat.testBit_two_pow_sub_one, Nat.testBit_shiftRight] at hbits
  have hinside : n - first < last + 1 - first := by omega
  have hback : first + (n - first) = n := by omega
  simpa [hinside, hback] using hbits

/-! ### What case tables do -/

/-- The members of a run. -/
def runCodes (first last step : Nat) : List Nat :=
  List.range' first ((last - first) / step + 1) step

/-- What the test of a run accepts is among its members. -/
theorem mem_runCodes {n first last step : Nat} (h : inRun n first last step = true) :
    n ∈ runCodes first last step := by
  simp only [inRun, Bool.and_eq_true, decide_eq_true_iff, beq_iff_eq] at h
  obtain ⟨⟨hfirst, hlast⟩, hstep⟩ := h
  have hsplit := Nat.div_add_mod (n - first) step
  have hbound : (n - first) / step ≤ (last - first) / step :=
    Nat.div_le_div_right (by omega)
  exact List.mem_range'.mpr ⟨(n - first) / step, by omega, by omega⟩

/-- A row of a table moves its run into alphanumeric code points beyond ASCII, or each member
to a code point with some property. -/
def carriesRow (p : Nat → Bool) (row : Nat × Nat × Nat × Int) : Bool :=
  holdsAll (row.1 + row.2.2.2).toNat (row.2.1 + row.2.2.2).toNat ||
  (runCodes row.1 row.2.1 row.2.2.1).all fun n => p ((n : Int) + row.2.2.2).toNat

/-- All rows of a table do so. -/
def Carries (p : Nat → Bool) (table : List (Nat × Nat × Nat × Int)) : Prop :=
  table.all (carriesRow p) = true

instance (p : Nat → Bool) (table : List (Nat × Nat × Nat × Int)) : Decidable (Carries p table) :=
  inferInstanceAs (Decidable (_ = true))

/-- Where all alphanumeric code points beyond ASCII have the property, a table that carries it
moves every code point to one that has it. -/
theorem Carries.of_shiftOf? {p : Nat → Bool} {table : List (Nat × Nat × Nat × Int)} {n : Nat}
    {d : Int} (h : Carries p table) (hp : ∀ m, alphanumericBits.testBit m = true → p m = true)
    (hd : shiftOf? table n = some d) : p ((n : Int) + d).toNat = true := by
  obtain ⟨⟨first, last, step, d⟩, hfound, rfl⟩ := Option.map_eq_some_iff.mp hd
  have hrun : inRun n first last step = true := by simpa using List.find?_some hfound
  have hrow := List.all_eq_true.mp h _ (List.mem_of_find?_eq_some hfound)
  rw [carriesRow, Bool.or_eq_true, List.all_eq_true] at hrow
  rcases hrow with hinside | hmembers
  · simp only [inRun, Bool.and_eq_true, decide_eq_true_iff] at hrun hinside ⊢
    exact hp _ (testBit_of_holdsAll hinside (by omega) (by omega))
  · exact hmembers _ (mem_runCodes hrun)

/-- An alphanumeric code point beyond ASCII, or a capital of ASCII. -/
def isCapitalCode (n : Nat) : Bool :=
  alphanumericBits.testBit n || (Nat.ble 0x41 n && Nat.ble n 0x5A)

/-- The same with the letter `k`, which is the small letter of the sign for a kelvin. -/
def isLetterCode (n : Nat) : Bool := isCapitalCode n || n == 0x6B

/-! ### The letters that need a mark -/

/-- A character that names are made of: alphanumeric, or an underscore. -/
def IsNameChar (c : Char) : Prop := isAlphanumeric c = true ∨ c = '_'

instance (c : Char) : Decidable (IsNameChar c) := inferInstanceAs (Decidable (_ ∨ _))

/-- The characters of a text can be checked one after another. -/
theorem forall_isNameChar {cs : List Char} (h : (cs.all fun c => decide (IsNameChar c)) = true) :
    ∀ c ∈ cs, IsNameChar c :=
  fun c hc => of_decide_eq_true (List.all_eq_true.mp h c hc)

/-- The small letters whose capital is spelled with a combining mark. -/
def markedCapitals : List Char :=
  ['ǰ', 'ΐ', 'ΰ', 'ẖ', 'ẗ', 'ẘ', 'ẙ', 'ὐ', 'ὒ', 'ὔ', 'ὖ', 'ᾶ', 'ᾷ', 'ῆ', 'ῇ', 'ῒ',
   '\u1FD3', 'ῖ', 'ῗ', 'ῢ', '\u1FE3', 'ῤ', 'ῦ', 'ῧ', 'ῶ', 'ῷ']

/-- The capital whose small letter is spelled with one. -/
def markedSmall : Char := 'İ'

/-! ### What the tables hold -/

/-- **The tables.**  The ranges lie beyond ASCII and hold no surrogates.  Both case tables move
letters to letters.  Capital forms of several characters are made of capitals, or of marks
beyond ASCII if their letter needs one.  These letters are alphanumeric, and their marks and
that of `İ` are not. -/
theorem tables_checked :
    (∀ range ∈ alphanumericRanges, 0x80 ≤ range.1 ∧
      (range.2 < 0xD800 ∨ (0xDFFF < range.1 ∧ range.2 < 0x110000))) ∧
    Carries isCapitalCode uppercaseShifts ∧ Carries isLetterCode lowercaseShifts ∧
    (∀ row ∈ uppercaseExpansions, row.2 ≠ [] ∧ ∀ code ∈ row.2,
      isCapitalCode code = true ∨
        (0x80 ≤ (Char.ofNat code).toNat ∧ row.1 ∈ markedCapitals.map Char.toNat)) ∧
    (markedCapitals.all fun c => alphanumericBits.testBit c.toNat && (upper c).any fun d =>
      !d.isAlphanum && !alphanumericBits.testBit d.toNat && d != '_') = true ∧
    alphanumericBits.testBit (Char.toNat '\u0307') = false := by
  -- All at once, since the bits are put together anew for each theorem.
  decide +kernel

/-- The alphanumeric code points are those of characters beyond ASCII. -/
theorem toNat_ofNat_of_testBit {n : Nat} (h : alphanumericBits.testBit n = true) :
    0x80 ≤ n ∧ (Char.ofNat n).toNat = n := by
  rw [alphanumericBits, testBit_rangeBits, inRanges, List.any_eq_true] at h
  obtain ⟨⟨low, high⟩, hrange, hinside⟩ := h
  simp only [Bool.and_eq_true, decide_eq_true_iff] at hinside
  obtain ⟨hlow, hhigh⟩ := hinside
  obtain ⟨hranges, _⟩ := tables_checked
  obtain ⟨hascii, hvalid⟩ := hranges _ hrange
  have hchar : n.isValidChar := hvalid.imp (fun h => by omega) fun h => ⟨by omega, by omega⟩
  refine ⟨by omega, ?_⟩
  rw [Char.ofNat, dif_pos hchar]
  rfl

/-- A character that is neither alphanumeric nor an underscore. -/
theorem not_isNameChar {c : Char} (hascii : c.isAlphanum = false)
    (hbit : alphanumericBits.testBit c.toNat = false) (hne : c ≠ '_') : ¬ IsNameChar c := by
  intro hname
  have halpha := hname.resolve_right hne
  rw [isAlphanumeric_eq, hascii, hbit] at halpha
  simp at halpha

/-- The capital form of a marked letter has a character that no name may have. -/
theorem exists_mark : ∀ c ∈ markedCapitals, ∃ d ∈ upper c, ¬ IsNameChar d := by
  intro c hc
  obtain ⟨_, _, _, _, hletters, _⟩ := tables_checked
  have hletter := List.all_eq_true.mp hletters c hc
  rw [Bool.and_eq_true, List.any_eq_true] at hletter
  obtain ⟨_, d, hd, hmark⟩ := hletter
  simp only [Bool.and_eq_true, Bool.not_eq_true', bne_iff_ne] at hmark
  obtain ⟨⟨hascii, hbit⟩, hne⟩ := hmark
  exact ⟨d, hd, not_isNameChar hascii hbit hne⟩

theorem isAlphanumeric_of_mem_markedCapitals :
    ∀ c ∈ markedCapitals, isAlphanumeric c = true := by
  intro c hc
  obtain ⟨_, _, _, _, hletters, _⟩ := tables_checked
  have hbit := ((Bool.and_eq_true _ _).mp (List.all_eq_true.mp hletters c hc)).1
  rw [isAlphanumeric_eq, hbit]
  simp [(toNat_ofNat_of_testBit hbit).1]

/-! ### The two mappings -/

variable {c d : Char}

/-- Beyond ASCII there is no digit and no small letter of ASCII. -/
theorem isDigit_isLower_eq_false (h : 0x80 ≤ c.toNat) : c.isDigit = false ∧ c.isLower = false := by
  have hcode : c.val.toNat = c.toNat := rfl
  constructor
  · simp only [Char.isDigit, Bool.and_eq_false_iff, decide_eq_false_iff_not, ge_iff_le,
      UInt32.le_iff_toNat_le]
    exact .inr (by rw [hcode]; simp; omega)
  · simp only [Char.isLower, Bool.and_eq_false_iff, decide_eq_false_iff_not, ge_iff_le,
      UInt32.le_iff_toNat_le]
    exact .inr (by rw [hcode]; simp; omega)

/-- How a character comes to stand in the uppercase form of another one. -/
theorem mem_upper_cases (h : d ∈ upper c) :
    (c.toNat < 0x80 ∧ d = c.toUpper) ∨
      (0x80 ≤ c.toNat ∧ ∃ codes, (c.toNat, codes) ∈ uppercaseExpansions ∧
        ∃ code ∈ codes, d = Char.ofNat code) ∨
      (0x80 ≤ c.toNat ∧ ∃ distance, shiftOf? uppercaseShifts c.toNat = some distance ∧
        d = shifted c distance) ∨
      (0x80 ≤ c.toNat ∧ d = c) := by
  unfold upper at h
  split at h
  next hascii => exact .inl ⟨hascii, List.mem_singleton.mp h⟩
  next hascii =>
    have hbeyond : 0x80 ≤ c.toNat := by omega
    split at h
    next codes hcodes =>
      obtain ⟨code, hcode, rfl⟩ := List.mem_map.mp h
      obtain ⟨before, after, htable, _⟩ := List.lookup_eq_some_iff.mp hcodes
      exact .inr (.inl ⟨hbeyond, codes, by simp [htable], code, hcode, rfl⟩)
    · split at h
      next distance hdistance =>
        exact .inr (.inr (.inl ⟨hbeyond, distance, hdistance, List.mem_singleton.mp h⟩))
      · exact .inr (.inr (.inr ⟨hbeyond, List.mem_singleton.mp h⟩))

/-- How a character comes to stand in the lowercase form of another one. -/
theorem mem_lower_cases (h : d ∈ lower c) :
    (c.toNat < 0x80 ∧ d = c.toLower) ∨
      (c = markedSmall ∧ (d = 'i' ∨ d = '\u0307')) ∨
      (0x80 ≤ c.toNat ∧ ∃ distance, shiftOf? lowercaseShifts c.toNat = some distance ∧
        d = shifted c distance) ∨
      (0x80 ≤ c.toNat ∧ d = c) := by
  unfold lower at h
  split at h
  next hascii => exact .inl ⟨hascii, List.mem_singleton.mp h⟩
  next hascii =>
    have hbeyond : 0x80 ≤ c.toNat := by omega
    split at h
    next hmarked => exact .inr (.inl ⟨hmarked, List.mem_pair.mp h⟩)
    · split at h
      next distance hdistance =>
        exact .inr (.inr (.inl ⟨hbeyond, distance, hdistance, List.mem_singleton.mp h⟩))
      · exact .inr (.inr (.inr ⟨hbeyond, List.mem_singleton.mp h⟩))

/-- The ASCII characters: letters and digits stay such, and digits stay themselves. -/
theorem ascii_cased (h : c.toNat < 0x80) :
    (c.toUpper.isDigit = c.isDigit ∧ c.toUpper.isLower = false) ∧
      c.toLower.isDigit = c.isDigit ∧
      (isAlphanumeric c = true → isAlphanumeric c.toUpper = true ∧
        isAlphanumeric c.toLower = true) := by
  have hall : ∀ n < 0x80, ((Char.ofNat n).toUpper.isDigit = (Char.ofNat n).isDigit ∧
      (Char.ofNat n).toUpper.isLower = false) ∧
      (Char.ofNat n).toLower.isDigit = (Char.ofNat n).isDigit ∧
      (isAlphanumeric (Char.ofNat n) = true → isAlphanumeric (Char.ofNat n).toUpper = true ∧
        isAlphanumeric (Char.ofNat n).toLower = true) := by
    decide +kernel
  have hc := hall c.toNat h
  rwa [Char.ofNat_toNat] at hc

/-- Characters with such codes are alphanumeric, and neither digits nor small letters of
ASCII. -/
theorem ofNat_of_isCapitalCode {n : Nat} (h : isCapitalCode n = true) :
    isAlphanumeric (Char.ofNat n) = true ∧ (Char.ofNat n).isDigit = false ∧
      (Char.ofNat n).isLower = false := by
  rw [isCapitalCode, Bool.or_eq_true, Bool.and_eq_true, Nat.ble_eq, Nat.ble_eq] at h
  rcases h with hbit | ⟨hfirst, hlast⟩
  · obtain ⟨hbeyond, hcode⟩ := toNat_ofNat_of_testBit hbit
    have halpha : isAlphanumeric (Char.ofNat n) = true := by
      rw [isAlphanumeric_eq, hcode, hbit]
      simp [hbeyond]
    have hchar : 0x80 ≤ (Char.ofNat n).toNat := by omega
    exact ⟨halpha, isDigit_isLower_eq_false hchar⟩
  · have hcapitals : ∀ m < 0x5B, 0x41 ≤ m → isAlphanumeric (Char.ofNat m) = true ∧
        (Char.ofNat m).isDigit = false ∧ (Char.ofNat m).isLower = false := by
      decide
    exact hcapitals n (by omega) hfirst

/-- A letter's code point is that of an alphanumeric character, and of no digit. -/
theorem ofNat_of_isLetterCode {n : Nat} (h : isLetterCode n = true) :
    isAlphanumeric (Char.ofNat n) = true ∧ (Char.ofNat n).isDigit = false := by
  rw [isLetterCode, Bool.or_eq_true] at h
  rcases h with hcapital | hk
  · obtain ⟨halpha, hdigit, _⟩ := ofNat_of_isCapitalCode hcapital
    exact ⟨halpha, hdigit⟩
  · rw [eq_of_beq hk]
    decide

/-- What the tables move a character to. -/
theorem shifted_upper {distance : Int} (h : shiftOf? uppercaseShifts c.toNat = some distance) :
    isAlphanumeric (shifted c distance) = true ∧ (shifted c distance).isDigit = false ∧
      (shifted c distance).isLower = false := by
  obtain ⟨_, hupper, _⟩ := tables_checked
  refine ofNat_of_isCapitalCode (hupper.of_shiftOf? (fun m hm => ?_) h)
  rw [isCapitalCode, hm, Bool.true_or]

/-- The small letter that the tables move a character to is alphanumeric, and no digit. -/
theorem shifted_lower {distance : Int} (h : shiftOf? lowercaseShifts c.toNat = some distance) :
    isAlphanumeric (shifted c distance) = true ∧ (shifted c distance).isDigit = false := by
  obtain ⟨_, _, hlower, _⟩ := tables_checked
  refine ofNat_of_isLetterCode (hlower.of_shiftOf? (fun m hm => ?_) h)
  rw [isLetterCode, isCapitalCode, hm, Bool.true_or, Bool.true_or]

/-- What a capital form of several characters is made of. -/
theorem expansion_upper {codes : List Nat} {code : Nat}
    (hrow : (c.toNat, codes) ∈ uppercaseExpansions) (hcode : code ∈ codes) :
    (c ∉ markedCapitals → isAlphanumeric (Char.ofNat code) = true) ∧
      (Char.ofNat code).isDigit = false ∧ (Char.ofNat code).isLower = false := by
  obtain ⟨_, _, _, hexpansions, _⟩ := tables_checked
  rcases (hexpansions _ hrow).2 code hcode with hcapital | ⟨hbeyond, hmarked⟩
  · obtain ⟨halpha, hplain⟩ := ofNat_of_isCapitalCode hcapital
    exact ⟨fun _ => halpha, hplain⟩
  · refine ⟨fun hnot => ?_, isDigit_isLower_eq_false hbeyond⟩
    obtain ⟨other, hother, hsame⟩ := List.mem_map.mp hmarked
    rw [Char.toNat_inj.mp hsame] at hother
    exact absurd hother hnot

/-- **Digits in uppercase.**  A digit of ASCII stays one, and nothing else becomes one. -/
theorem isDigit_of_mem_upper (h : d ∈ upper c) : d.isDigit = c.isDigit := by
  rcases mem_upper_cases h with ⟨hascii, rfl⟩ | ⟨hbeyond, codes, hrow, code, hcode, rfl⟩ |
    ⟨hbeyond, distance, hdistance, rfl⟩ | ⟨hbeyond, rfl⟩
  · exact (ascii_cased hascii).1.1
  · rw [(expansion_upper hrow hcode).2.1, (isDigit_isLower_eq_false hbeyond).1]
  · rw [(shifted_upper hdistance).2.1, (isDigit_isLower_eq_false hbeyond).1]
  · rfl

/-- **Digits in lowercase.** -/
theorem isDigit_of_mem_lower (h : d ∈ lower c) : d.isDigit = c.isDigit := by
  rcases mem_lower_cases h with ⟨hascii, rfl⟩ | ⟨rfl, hmark⟩ |
    ⟨hbeyond, distance, hdistance, rfl⟩ | ⟨hbeyond, rfl⟩
  · exact (ascii_cased hascii).2.1
  · rcases hmark with rfl | rfl <;> decide
  · rw [(shifted_lower hdistance).2, (isDigit_isLower_eq_false hbeyond).1]
  · rfl

/-- No small letter of ASCII stands in an uppercase form. -/
theorem isLower_of_mem_upper (h : d ∈ upper c) : d.isLower = false := by
  rcases mem_upper_cases h with ⟨hascii, rfl⟩ | ⟨hbeyond, codes, hrow, code, hcode, rfl⟩ |
    ⟨hbeyond, distance, hdistance, rfl⟩ | ⟨hbeyond, rfl⟩
  · exact (ascii_cased hascii).1.2
  · exact (expansion_upper hrow hcode).2.2
  · exact (shifted_upper hdistance).2.2
  · exact (isDigit_isLower_eq_false hbeyond).2

/-- **Uppercase.**  The uppercase form of an alphanumeric character is made of characters of
names exactly if it needs no mark. -/
theorem forall_mem_upper_iff (hc : isAlphanumeric c = true) :
    (∀ d ∈ upper c, IsNameChar d) ↔ c ∉ markedCapitals := by
  constructor
  · intro hall hmarked
    obtain ⟨d, hd, hmark⟩ := exists_mark c hmarked
    exact hmark (hall d hd)
  · intro hplain d hd
    rcases mem_upper_cases hd with ⟨hascii, rfl⟩ | ⟨_, codes, hrow, code, hcode, rfl⟩ |
      ⟨_, distance, hdistance, rfl⟩ | ⟨_, rfl⟩
    · exact .inl ((ascii_cased hascii).2.2 hc).1
    · exact .inl ((expansion_upper hrow hcode).1 hplain)
    · exact .inl (shifted_upper hdistance).1
    · exact .inl hc

/-- **Lowercase.**  So is the lowercase form. -/
theorem forall_mem_lower_iff (hc : isAlphanumeric c = true) :
    (∀ d ∈ lower c, IsNameChar d) ↔ c ≠ markedSmall := by
  constructor
  · rintro hall rfl
    obtain ⟨_, _, _, _, _, hbit⟩ := tables_checked
    have hlower : lower markedSmall = ['i', '\u0307'] := rfl
    have hmark : Char.isAlphanum '\u0307' = false ∧ '\u0307' ≠ '_' := by decide
    exact not_isNameChar hmark.1 hbit hmark.2 (hall _ (by simp [hlower]))
  · intro hplain d hd
    rcases mem_lower_cases hd with ⟨hascii, rfl⟩ | ⟨hmarked, _⟩ |
      ⟨_, distance, hdistance, rfl⟩ | ⟨_, rfl⟩
    · exact .inl ((ascii_cased hascii).2.2 hc).2
    · exact absurd hmarked hplain
    · exact .inl (shifted_lower hdistance).1
    · exact .inl hc

/-- The capital form of a character is never empty. -/
theorem upper_ne_nil (c : Char) : upper c ≠ [] := by
  unfold upper
  split
  · simp
  · split
    next codes hcodes =>
      obtain ⟨before, after, htable, _⟩ := List.lookup_eq_some_iff.mp hcodes
      obtain ⟨_, _, _, hexpansions, _⟩ := tables_checked
      have hrow := (hexpansions (c.toNat, codes) (by simp [htable])).1
      simpa using hrow
    · split <;> simp

end ClientGen.Text
