import ClientGen.Decimal.Spelling
import ClientGen.Proofs.Document.StatusCode
import Mathlib.Algebra.Order.Field.Rat
import Mathlib.Algebra.Order.Field.Power
import Mathlib.Data.List.TakeWhile

/-!
# Numbers as Kotlin writes them

A number is decimal digits with at most one point among them and an exponent behind them, if
there is one.  There are digits behind a point, while those in front of it may be missing; an
exponent has digits as well.  An integer has nothing but digits, and no zero in front of
others.  A sign may stand in front of each.

A text is a number in one way only, so it has one value.  Every number in this sense is also
a spelling in the sense of `Decimal.isSpelling`, which admits two kinds more: words, and digits
with a point behind them.

* `SpellsInteger.unique`, `SpellsNumber.unique`: the value of a text;
* `SpellsInteger.spellsNumber`: integers are numbers;
* `SpellsNumber.isSpelling`: numbers are spellings;
* `exists_digits_of_isSpelling`: spellings without a point and an exponent.
-/

namespace ClientGen.Kotlin

/-! ### The grammar -/

/-- One or more decimal digits, and the number that they stand for. -/
inductive SpellsNatural : List Char → ℤ → Prop
  | digits {cs : List Char} (hne : cs ≠ []) (hdigits : ∀ c ∈ cs, c.isDigit = true) :
      SpellsNatural cs (Nat.ofDigitChars 10 cs 0)

/-- The same where no zero stands in front of other digits. -/
def SpellsWhole (cs : List Char) (n : ℤ) : Prop :=
  SpellsNatural cs n ∧ (cs.head? = some '0' → cs = ['0'])

/-- A number of some kind, or a sign and such a number. -/
inductive Signed {α : Type} [Neg α] (Spells : List Char → α → Prop) : List Char → α → Prop
  | bare {cs : List Char} {x : α} (h : Spells cs x) : Signed Spells cs x
  | plus {cs : List Char} {x : α} (h : Spells cs x) : Signed Spells ('+' :: cs) x
  | minus {cs : List Char} {x : α} (h : Spells cs x) : Signed Spells ('-' :: cs) (-x)

/-- A point and digits behind it, or nothing; the digits alone. -/
inductive Fraction : List Char → List Char → Prop
  | absent : Fraction [] []
  | digits {cs : List Char} (hne : cs ≠ []) (hdigits : ∀ c ∈ cs, c.isDigit = true) :
      Fraction ('.' :: cs) cs

/-- An exponent with its mark, or nothing; the power of ten. -/
inductive Exponent : List Char → ℤ → Prop
  | absent : Exponent [] 0
  | power {mark : Char} {cs : List Char} {e : ℤ} (hmark : mark = 'e' ∨ mark = 'E')
      (h : Signed SpellsNatural cs e) : Exponent (mark :: cs) e

/-- A number without a sign. -/
inductive Magnitude : List Char → ℚ → Prop
  | parts {whole point fraction power : List Char} {e : ℤ}
      (hwhole : ∀ c ∈ whole, c.isDigit = true) (hfraction : Fraction point fraction)
      (hne : whole ++ fraction ≠ []) (hpower : Exponent power e) :
      Magnitude (whole ++ (point ++ power))
        ((Nat.ofDigitChars 10 (whole ++ fraction) 0 : ℚ) * 10 ^ (e - fraction.length))

/-- A text is a decimal integer. -/
def SpellsInteger (cs : List Char) (n : ℤ) : Prop := Signed SpellsWhole cs n

/-- A text is a decimal number. -/
def SpellsNumber (cs : List Char) (q : ℚ) : Prop := Signed Magnitude cs q

/-- There is a point or the mark of an exponent in a text. -/
def HasFraction (cs : List Char) : Prop := ∃ c ∈ cs, c = '.' ∨ c = 'e' ∨ c = 'E'

variable {cs : List Char}

/-! ### Characters -/

/-- The characters that numbers consist of. -/
def isNumeralChar (c : Char) : Bool := c.isDigit || c ∈ ['+', '-', '.', 'e', 'E']

theorem isNumeralChar_of_isDigit {c : Char} (h : c.isDigit = true) : isNumeralChar c = true := by
  rw [isNumeralChar, h, Bool.true_or]

/-- A natural number is spelled with digits. -/
theorem SpellsNatural.isDigit {n : ℤ} (h : SpellsNatural cs n) :
    cs ≠ [] ∧ ∀ c ∈ cs, c.isDigit = true := by
  cases h with
  | digits hne hdigits => exact ⟨hne, hdigits⟩

/-- A sign brings no other character. -/
theorem Signed.forall_mem {α : Type} [Neg α] {Spells : List Char → α → Prop} {x : α}
    {p : Char → Prop} (hsign : p '+' ∧ p '-') (hp : ∀ {cs x}, Spells cs x → ∀ c ∈ cs, p c)
    (h : Signed Spells cs x) : ∀ c ∈ cs, p c := by
  cases h with
  | bare h => exact hp h
  | plus h => exact List.forall_mem_cons.mpr ⟨hsign.1, hp h⟩
  | minus h => exact List.forall_mem_cons.mpr ⟨hsign.2, hp h⟩

theorem Exponent.isNumeralChar {e : ℤ} (h : Exponent cs e) :
    ∀ c ∈ cs, isNumeralChar c = true := by
  cases h with
  | absent => simp
  | power hmark h =>
      refine List.forall_mem_cons.mpr ⟨?_, ?_⟩
      · rcases hmark with rfl | rfl <;> decide
      · exact h.forall_mem (p := fun c => Kotlin.isNumeralChar c = true) (by decide)
          fun hdigits c hc => isNumeralChar_of_isDigit (hdigits.isDigit.2 c hc)

theorem Magnitude.isNumeralChar {q : ℚ} (h : Magnitude cs q) :
    ∀ c ∈ cs, isNumeralChar c = true := by
  cases h with
  | parts hwhole hfraction _ hpower =>
      rw [List.forall_mem_append, List.forall_mem_append]
      refine ⟨fun c hc => isNumeralChar_of_isDigit (hwhole c hc), ?_, hpower.isNumeralChar⟩
      cases hfraction with
      | absent => simp
      | digits _ hdigits =>
          refine List.forall_mem_cons.mpr ⟨by decide, fun c hc => ?_⟩
          exact isNumeralChar_of_isDigit (hdigits c hc)

/-- A number has characters of numerals only. -/
theorem SpellsNumber.isNumeralChar {q : ℚ} (h : SpellsNumber cs q) :
    ∀ c ∈ cs, isNumeralChar c = true :=
  h.forall_mem (p := fun c => Kotlin.isNumeralChar c = true) (by decide) Magnitude.isNumeralChar

/-- An integer has neither a point nor an exponent. -/
theorem SpellsInteger.not_hasFraction {n : ℤ} (h : SpellsInteger cs n) : ¬HasFraction cs := by
  have hplain : ∀ c ∈ cs, ¬(c = '.' ∨ c = 'e' ∨ c = 'E') :=
    h.forall_mem (p := fun c => ¬(c = '.' ∨ c = 'e' ∨ c = 'E')) (by decide) fun hwhole c hc => by
      have hdigit := hwhole.1.isDigit.2 c hc
      rintro (rfl | rfl | rfl) <;> exact absurd hdigit (by decide)
  rintro ⟨c, hc, hmark⟩
  exact hplain c hc hmark

/-! ### Parts -/

/-- Where characters of a kind end in front of something that starts with none, both parts
are read off. -/
theorem takeWhile_append_of_kind {p : Char → Bool} {as bs : List Char}
    (has : ∀ c ∈ as, p c = true) (hbs : ∀ c ∈ bs.head?, p c = false) :
    (as ++ bs).takeWhile p = as ∧ (as ++ bs).dropWhile p = bs := by
  rw [List.takeWhile_append_of_pos has, List.dropWhile_append_of_pos has]
  cases bs with
  | nil => exact ⟨List.append_nil as, rfl⟩
  | cons c bs =>
      have hc : ¬p c = true := by simp [hbs c rfl]
      exact ⟨by rw [List.takeWhile_cons_of_neg hc, List.append_nil],
        List.dropWhile_cons_of_neg hc⟩

/-- So a text is cut into two such parts in one way only. -/
theorem append_inj_of_kind {p : Char → Bool} {as bs as' bs' : List Char}
    (has : ∀ c ∈ as, p c = true) (has' : ∀ c ∈ as', p c = true)
    (hbs : ∀ c ∈ bs.head?, p c = false) (hbs' : ∀ c ∈ bs'.head?, p c = false)
    (h : as ++ bs = as' ++ bs') : as = as' ∧ bs = bs' := by
  obtain ⟨hfront, hback⟩ := takeWhile_append_of_kind has hbs
  obtain ⟨hfront', hback'⟩ := takeWhile_append_of_kind has' hbs'
  exact ⟨by rw [← hfront, h, hfront'], by rw [← hback, h, hback']⟩

theorem Exponent.head? {e : ℤ} (h : Exponent cs e) : ∀ c ∈ cs.head?, c = 'e' ∨ c = 'E' := by
  cases h with
  | absent => simp
  | power hmark _ =>
      intro c hc
      rw [← Option.some.inj hc]
      exact hmark

/-- No digit stands where an exponent starts. -/
theorem Exponent.head?_not_digit {e : ℤ} (h : Exponent cs e) :
    ∀ c ∈ cs.head?, c.isDigit = false := by
  intro c hc
  rcases h.head? c hc with rfl | rfl <;> decide

/-- Nor where a fraction starts or, without one, an exponent. -/
theorem Fraction.head?_not_digit {point fraction power : List Char} {e : ℤ}
    (h : Fraction point fraction) (hpower : Exponent power e) :
    ∀ c ∈ (point ++ power).head?, c.isDigit = false := by
  cases h with
  | absent => exact hpower.head?_not_digit
  | digits _ _ =>
      intro c hc
      rw [← Option.some.inj hc]
      decide

/-- A number without a sign starts with a digit or a point, not with a sign. -/
theorem Magnitude.head? {q : ℚ} (h : Magnitude cs q) :
    cs.head? ≠ some '+' ∧ cs.head? ≠ some '-' := by
  have hhead : ∃ c, cs.head? = some c ∧ (c.isDigit = true ∨ c = '.') := by
    cases h with
    | @parts whole point fraction power e hwhole hfraction hne hpower =>
        cases whole with
        | cons c whole => exact ⟨c, rfl, .inl (hwhole c List.mem_cons_self)⟩
        | nil =>
            cases hfraction with
            | absent => exact absurd rfl hne
            | digits _ _ => exact ⟨'.', rfl, .inr rfl⟩
  obtain ⟨c, hhead, hc⟩ := hhead
  rw [hhead]
  constructor
  · rintro ⟨⟩
    rcases hc with hc | hc <;> exact absurd hc (by decide)
  · rintro ⟨⟩
    rcases hc with hc | hc <;> exact absurd hc (by decide)

/-- A natural number has no sign. -/
theorem SpellsNatural.head? {n : ℤ} (h : SpellsNatural cs n) :
    cs.head? ≠ some '+' ∧ cs.head? ≠ some '-' := by
  have hdigit := h.isDigit.2
  constructor
  · intro hhead
    exact absurd (hdigit _ (List.mem_of_mem_head? hhead)) (by decide)
  · intro hhead
    exact absurd (hdigit _ (List.mem_of_mem_head? hhead)) (by decide)

/-! ### One value -/

/-- A sign tells itself from what it stands in front of. -/
theorem Signed.unique {α : Type} [Neg α] {Spells : List Char → α → Prop}
    (hunique : ∀ {cs x y}, Spells cs x → Spells cs y → x = y)
    (hhead : ∀ {cs x}, Spells cs x → cs.head? ≠ some '+' ∧ cs.head? ≠ some '-') {cs' : List Char}
    {x y : α} (h : Signed Spells cs x) (h' : Signed Spells cs' y) (heq : cs = cs') : x = y := by
  cases h with
  | bare h =>
      cases h' with
      | bare h' => exact hunique h (heq ▸ h')
      | plus h' => exact absurd (congrArg List.head? heq) (hhead h).1
      | minus h' => exact absurd (congrArg List.head? heq) (hhead h).2
  | plus h =>
      cases h' with
      | bare h' => exact absurd (congrArg List.head? heq.symm) (hhead h').1
      | plus h' => exact hunique h ((List.cons.inj heq).2 ▸ h')
      | minus h' => exact absurd (List.cons.inj heq).1 (by decide)
  | minus h =>
      cases h' with
      | bare h' => exact absurd (congrArg List.head? heq.symm) (hhead h').2
      | plus h' => exact absurd (List.cons.inj heq).1 (by decide)
      | minus h' => rw [hunique h ((List.cons.inj heq).2 ▸ h')]

/-- A text spells one natural number at most. -/
theorem SpellsNatural.unique {n m : ℤ} (h : SpellsNatural cs n) (h' : SpellsNatural cs m) :
    n = m := by
  cases h
  cases h'
  rfl

/-- A text is one exponent at most. -/
theorem Exponent.unique {cs' : List Char} {e e' : ℤ} (h : Exponent cs e) (h' : Exponent cs' e')
    (heq : cs = cs') : e = e' := by
  cases h with
  | absent =>
      cases h' with
      | absent => rfl
      | power _ _ => cases heq
  | power _ h =>
      cases h' with
      | absent => cases heq
      | power _ h' =>
          exact Signed.unique (fun hn hm => hn.unique hm) (fun hn => hn.head?) h h'
            (List.cons.inj heq).2

/-- A fraction and the exponent behind it are told apart in one way. -/
theorem Fraction.unique {point point' fraction fraction' power power' : List Char} {e e' : ℤ}
    (h : Fraction point fraction) (h' : Fraction point' fraction') (hpower : Exponent power e)
    (hpower' : Exponent power' e') (heq : point ++ power = point' ++ power') :
    fraction = fraction' ∧ power = power' := by
  have hpoint : ∀ {cs : List Char} {e : ℤ}, Exponent cs e → cs.head? ≠ some '.' := by
    intro cs e hcs hhead
    rcases hcs.head? _ hhead with hmark | hmark <;> exact absurd hmark (by decide)
  cases h with
  | absent =>
      cases h' with
      | absent => exact ⟨rfl, heq⟩
      | digits _ _ => exact absurd (congrArg List.head? heq) (hpoint hpower)
  | digits _ hdigits =>
      cases h' with
      | absent => exact absurd (congrArg List.head? heq.symm) (hpoint hpower')
      | digits _ hdigits' =>
          exact append_inj_of_kind hdigits hdigits' hpower.head?_not_digit
            hpower'.head?_not_digit (List.cons.inj heq).2

/-- A text is one magnitude at most. -/
theorem Magnitude.unique {cs' : List Char} {q q' : ℚ} (h : Magnitude cs q)
    (h' : Magnitude cs' q') (heq : cs = cs') : q = q' := by
  cases h with
  | parts hwhole hfraction _ hpower =>
      cases h' with
      | parts hwhole' hfraction' _ hpower' =>
          obtain ⟨hsame, hrest⟩ := append_inj_of_kind hwhole hwhole'
            (hfraction.head?_not_digit hpower) (hfraction'.head?_not_digit hpower') heq
          obtain ⟨hdigits, hpowers⟩ := hfraction.unique hfraction' hpower hpower' hrest
          rw [hsame, hdigits, hpower.unique hpower' hpowers]

/-- **Integers.**  A text is no more than one integer. -/
theorem SpellsInteger.unique {n m : ℤ} (h : SpellsInteger cs n) (h' : SpellsInteger cs m) :
    n = m :=
  Signed.unique (fun hn hm => hn.1.unique hm.1) (fun hn => hn.1.head?) h h' rfl

/-- **Numbers.**  A text is no more than one number. -/
theorem SpellsNumber.unique {q r : ℚ} (h : SpellsNumber cs q) (h' : SpellsNumber cs r) :
    q = r :=
  Signed.unique (fun hq hr => hq.unique hr rfl) (fun hq => hq.head?) h h' rfl

/-! ### Integers as numbers -/

/-- What holds of a kind of numbers behind any sign, holds of it with a sign, also if
something is put behind the number. -/
theorem Signed.append {α β : Type} [Neg α] [Neg β] {Spells : List Char → α → Prop}
    {Other : List Char → β → Prop} {f : α → β} {ext : List Char} (hneg : ∀ x, f (-x) = -f x)
    (hother : ∀ {cs x}, Spells cs x → Other (cs ++ ext) (f x)) {x : α} (h : Signed Spells cs x) :
    Signed Other (cs ++ ext) (f x) := by
  cases h with
  | bare h => exact .bare (hother h)
  | plus h => exact .plus (hother h)
  | minus h =>
      rw [hneg]
      exact .minus (hother h)

/-- Digits are a number. -/
theorem SpellsNatural.magnitude {n : ℤ} (h : SpellsNatural cs n) : Magnitude cs n := by
  cases h with
  | digits hne hdigits =>
      have hparts := Magnitude.parts hdigits .absent (by simpa using hne) .absent
      simpa using hparts

/-- Digits with a point among them, and no exponent. -/
theorem Magnitude.pointed {whole fraction : List Char} (hwhole : ∀ c ∈ whole, c.isDigit = true)
    (hne : fraction ≠ []) (hfraction : ∀ c ∈ fraction, c.isDigit = true) :
    Magnitude (whole ++ '.' :: fraction)
      (Nat.ofDigitChars 10 (whole ++ fraction) 0 * 10 ^ (-fraction.length : ℤ)) := by
  have hparts := Magnitude.parts hwhole (.digits hne hfraction) (by simp [hne]) .absent
  rw [List.append_nil, zero_sub] at hparts
  exact hparts

/-- They are the same number with a point and a zero behind them. -/
theorem SpellsNatural.magnitude_zero {n : ℤ} (h : SpellsNatural cs n) :
    Magnitude (cs ++ ['.', '0']) n := by
  cases h with
  | digits hne hdigits =>
      have hpointed := Magnitude.pointed hdigits (List.cons_ne_nil '0' [])
        (List.forall_mem_singleton.mpr rfl)
      have hdigit : Nat.ofDigitChars 10 (cs ++ ['0']) 0 = Nat.ofDigitChars 10 cs 0 * 10 := by
        rw [Nat.ofDigitChars_append, Nat.ofDigitChars_cons, Nat.ofDigitChars_nil, mul_comm]
        rfl
      have hvalue : (Nat.ofDigitChars 10 (cs ++ ['0']) 0 : ℚ) * 10 ^ (-(1 : ℕ) : ℤ) =
          ((Nat.ofDigitChars 10 cs 0 : ℕ) : ℤ) := by
        rw [hdigit, Nat.cast_one, zpow_neg_one, Nat.cast_mul, Int.cast_natCast]
        exact mul_inv_cancel_right₀ (by norm_num) _
      rw [← hvalue]
      exact hpointed

/-- **Integers are numbers.** -/
theorem SpellsInteger.spellsNumber {n : ℤ} (h : SpellsInteger cs n) : SpellsNumber cs n := by
  have hnumber : Signed Magnitude (cs ++ []) (n : ℚ) :=
    Signed.append Int.cast_neg
      (fun hwhole => by rw [List.append_nil]; exact hwhole.1.magnitude) h
  rw [List.append_nil] at hnumber
  exact hnumber

/-! ### Spellings -/

theorem afterSign_eq_self (h : cs.head? ≠ some '+' ∧ cs.head? ≠ some '-') :
    Decimal.afterSign cs = cs := by
  unfold Decimal.afterSign
  split
  · exact absurd rfl h.1
  · exact absurd rfl h.2
  · rfl

theorem mem_of_mem_afterSign {c : Char} : c ∈ Decimal.afterSign cs → c ∈ cs := by
  unfold Decimal.afterSign
  split
  · exact List.mem_cons_of_mem _
  · exact List.mem_cons_of_mem _
  · exact id

/-- What stands behind the sign is a number of the kind. -/
theorem Signed.afterSign {α : Type} [Neg α] {Spells : List Char → α → Prop}
    (hhead : ∀ {cs x}, Spells cs x → cs.head? ≠ some '+' ∧ cs.head? ≠ some '-') {x : α}
    (h : Signed Spells cs x) : ∃ y, Spells (Decimal.afterSign cs) y := by
  cases h with
  | bare h => exact ⟨x, by rwa [afterSign_eq_self (hhead h)]⟩
  | plus h => exact ⟨x, h⟩
  | minus h => exact ⟨_, h⟩

/-- And the other way round. -/
theorem Signed.of_afterSign {α : Type} [Neg α] {Spells : List Char → α → Prop} {x : α}
    (h : Spells (Decimal.afterSign cs) x) : ∃ y, Signed Spells cs y := by
  revert h
  unfold Decimal.afterSign
  split
  · exact fun h => ⟨x, .plus h⟩
  · exact fun h => ⟨-x, .minus h⟩
  · exact fun h => ⟨x, .bare h⟩

/-- The test for digits finds the natural numbers. -/
theorem isDigits_iff : Decimal.isDigits cs = true ↔ ∃ n, SpellsNatural cs n := by
  rw [Decimal.isDigits, Bool.and_eq_true, List.all_eq_true, Bool.not_eq_true',
    List.isEmpty_eq_false_iff]
  constructor
  · rintro ⟨hne, hdigits⟩
    exact ⟨_, .digits hne hdigits⟩
  · rintro ⟨n, h⟩
    exact h.isDigit

/-- An exponent passes the test for one. -/
theorem Exponent.isExponent {e : ℤ} (h : Exponent cs e) : Decimal.isExponent cs = true := by
  cases h with
  | absent => rfl
  | power hmark h =>
      rw [Decimal.isExponent, Bool.and_eq_true]
      exact ⟨by simpa using hmark, isDigits_iff.mpr (h.afterSign fun hn => hn.head?)⟩

/-- A magnitude passes the test for a number without a sign. -/
theorem Magnitude.isUnsigned {q : ℚ} (h : Magnitude cs q) : Decimal.isUnsigned cs = true := by
  cases h with
  | @parts whole point fraction power e hwhole hfraction hne hpower =>
      have hexponent := hpower.isExponent
      obtain ⟨htake, hdrop⟩ :=
        takeWhile_append_of_kind hwhole (hfraction.head?_not_digit hpower)
      unfold Decimal.isUnsigned
      simp only [htake, hdrop]
      cases hfraction with
      | absent =>
          have hwhole' : whole ≠ [] := by simpa using hne
          cases hpower with
          | absent => simp [hwhole', Decimal.isExponent]
          | power hmark _ =>
              rcases hmark with rfl | rfl <;> simpa [hwhole'] using hexponent
      | digits hne' hdigits =>
          obtain ⟨htake', hdrop'⟩ :=
            takeWhile_append_of_kind hdigits hpower.head?_not_digit
          simp [htake', hdrop', hne', hexponent]

/-- **Numbers are spellings.** -/
theorem SpellsNumber.isSpelling {q : ℚ} (h : SpellsNumber cs q) :
    Decimal.isSpelling cs = true := by
  obtain ⟨r, hr⟩ := h.afterSign fun hq => hq.head?
  rw [Decimal.isSpelling, hr.isUnsigned, Bool.or_true]

/-- Without a point and an exponent only the digits are left. -/
theorem isDigits_of_isUnsigned (h : Decimal.isUnsigned cs = true) (hfraction : ¬HasFraction cs) :
    Decimal.isDigits cs = true := by
  have hcs : cs.takeWhile Char.isDigit ++ cs.dropWhile Char.isDigit = cs :=
    List.takeWhile_append_dropWhile
  unfold Decimal.isUnsigned at h
  cases hdrop : cs.dropWhile Char.isDigit with
  | nil =>
      rw [hdrop, List.append_nil] at hcs
      simp only [hdrop, hcs, Decimal.isExponent, Bool.and_true] at h
      rw [Decimal.isDigits, h, Bool.true_and, List.all_eq_true]
      exact List.takeWhile_eq_self_iff.mp hcs
  | cons c rest =>
      have hc : ¬(c = '.' ∨ c = 'e' ∨ c = 'E') := by
        intro hmark
        refine hfraction ⟨c, ?_, hmark⟩
        rw [← hcs, hdrop]
        exact List.mem_append_right _ List.mem_cons_self
      obtain ⟨hpoint, he, hE⟩ := not_or.mp hc |>.imp_right not_or.mp
      simp [hdrop, Decimal.isExponent, hpoint, he, hE] at h

/-- **Spellings without a point and an exponent** are words or digits. -/
theorem exists_digits_of_isSpelling (h : Decimal.isSpelling cs = true)
    (hfraction : ¬HasFraction cs) :
    Decimal.isSpecial (Decimal.afterSign cs) = true ∨ ∃ n, Signed SpellsNatural cs n := by
  rw [Decimal.isSpelling, Bool.or_eq_true] at h
  rcases h with hspecial | hunsigned
  · exact .inl hspecial
  · right
    have hbody : ¬HasFraction (Decimal.afterSign cs) := by
      rintro ⟨c, hc, hmark⟩
      exact hfraction ⟨c, mem_of_mem_afterSign hc, hmark⟩
    obtain ⟨n, hn⟩ := isDigits_iff.mp (isDigits_of_isUnsigned hunsigned hbody)
    exact Signed.of_afterSign hn

theorem isNumeralChar_toLower {c : Char} (h : isNumeralChar c = true) :
    isNumeralChar c.toLower = true := by
  rw [isNumeralChar, Bool.or_eq_true, decide_eq_true_eq] at h
  rcases h with hdigit | hmark
  · rw [StatusCode.toLower_of_isDigit hdigit]
    exact isNumeralChar_of_isDigit hdigit
  · simp only [List.mem_cons, List.not_mem_nil, or_false] at hmark
    rcases hmark with rfl | rfl | rfl | rfl | rfl <;> rfl

/-- There is a letter in each word that stands in no number. -/
theorem not_isSpecial (h : ∀ c ∈ cs, isNumeralChar c = true) : Decimal.isSpecial cs = false := by
  have hlower : ∀ c ∈ cs.map Char.toLower, isNumeralChar c = true :=
    List.forall_mem_map.mpr fun c hc => isNumeralChar_toLower (h c hc)
  have hword : ∀ word : String, 'n' ∈ word.toList →
      (String.ofList (cs.map Char.toLower) == word) = false := by
    intro word hn
    rw [beq_eq_false_iff_ne]
    intro heq
    rw [← heq, String.toList_ofList] at hn
    exact absurd (hlower 'n' hn) (by decide)
  simp only [Decimal.isSpecial, hword "inf" (by decide), hword "infinity" (by decide),
    hword "nan" (by decide), Bool.or_false]

/-- **A point and a zero** behind a spelling without a point and an exponent make it a number
if it is one, and the same number. -/
theorem spellsNumber_append_zero_iff {q : ℚ} (h : Decimal.isSpelling cs = true)
    (hfraction : ¬HasFraction cs) : SpellsNumber (cs ++ ['.', '0']) q ↔ SpellsNumber cs q := by
  rcases exists_digits_of_isSpelling h hfraction with hspecial | ⟨n, hn⟩
  · have hword : ¬∀ c ∈ cs, isNumeralChar c = true := by
      intro hnumeral
      have hno := not_isSpecial fun c hc => hnumeral c (mem_of_mem_afterSign hc)
      rw [hspecial] at hno
      cases hno
    constructor
    · intro hq
      exact absurd (fun c hc => hq.isNumeralChar c (List.mem_append_left _ hc)) hword
    · intro hq
      exact absurd hq.isNumeralChar hword
  · have hzero : SpellsNumber (cs ++ ['.', '0']) n :=
      Signed.append Int.cast_neg (fun hdigits => hdigits.magnitude_zero) hn
    have hplain : SpellsNumber (cs ++ []) n :=
      Signed.append Int.cast_neg
        (fun hdigits => by rw [List.append_nil]; exact hdigits.magnitude) hn
    rw [List.append_nil] at hplain
    constructor
    · intro hq
      rwa [hq.unique hzero]
    · intro hq
      rwa [hq.unique hplain]

end ClientGen.Kotlin
