import ClientGen.Decimal.Basic
import ClientGen.Proofs.Kotlin.Numerals
import Mathlib.Data.List.Basic

/-!
# Numbers as documents write them

Integers are written by their digits, and the leading one is not zero.  A decimal is written in
one of several ways, according to the place of its leading digit, and with a point or an
exponent in each.  All these are numbers as Kotlin writes them, and what is read off them is
the number that was written.

* `SpellsInteger.repr`: integers;
* `Decimal.magnitude_magnitudeChars`: the digits of a decimal at a place;
* `Decimal.spellsNumber_text`, `Decimal.hasFraction_text`: decimals.
-/

namespace ClientGen

namespace Kotlin

/-! ### Integers -/

/-- Only the digits of zero start with a zero. -/
theorem eq_zero_of_head?_toDigits {n : ℕ} (h : (Nat.toDigits 10 n).head? = some '0') : n = 0 := by
  induction n using Nat.strong_induction_on with
  | _ n ih =>
      by_cases hn : n < 10
      · rw [Nat.toDigits_of_lt_base hn] at h
        exact Nat.digitChar_eq_zero.mp (Option.some.inj h)
      · rw [Nat.toDigits_of_base_le (by decide) (by omega),
          List.head?_append_of_ne_nil _ Nat.toDigits_ne_nil] at h
        have hzero := ih (n / 10) (by omega) h
        omega

/-- The digits of a natural number spell it. -/
theorem spellsNatural_toDigits (n : ℕ) : SpellsNatural (Nat.toDigits 10 n) n := by
  have hdigits : ∀ c ∈ Nat.toDigits 10 n, c.isDigit = true :=
    fun c hc => Nat.isDigit_of_mem_toDigits (by decide) (by decide) hc
  have h := SpellsNatural.digits Nat.toDigits_ne_nil hdigits
  rwa [Nat.ofDigitChars_ten_toDigits] at h

theorem spellsWhole_toDigits (n : ℕ) : SpellsWhole (Nat.toDigits 10 n) n := by
  refine ⟨spellsNatural_toDigits n, fun hhead => ?_⟩
  rw [eq_zero_of_head?_toDigits hhead]
  rfl

/-- **Integers** as they are written. -/
theorem SpellsInteger.repr (n : ℤ) : SpellsInteger (toString n).toList n := by
  cases n with
  | ofNat m =>
      have htext : (toString (Int.ofNat m)).toList = Nat.toDigits 10 m := Nat.toList_repr
      rw [htext]
      exact .bare (spellsWhole_toDigits m)
  | negSucc m =>
      have htext : (toString (Int.negSucc m)).toList = '-' :: Nat.toDigits 10 (m + 1) := by
        have hrepr : toString (Int.negSucc m) = "-" ++ (m + 1).repr := rfl
        rw [hrepr, String.toList_append, Nat.toList_repr]
        rfl
      rw [htext]
      exact .minus (spellsWhole_toDigits (m + 1))

end Kotlin

namespace Decimal

open Kotlin

/-! ### Decimals -/

/-- The number that a decimal stands for. -/
def value (d : Decimal) : ℚ :=
  let magnitude : ℚ := d.digits * 10 ^ d.exponent
  if d.negative then -magnitude else magnitude

/-- The digits of a decimal are those of its natural number. -/
theorem digitChars_eq (n : ℕ) : digitChars n = Nat.toDigits 10 n := Nat.toList_repr

/-- The exponent behind the digits. -/
theorem exponent_place (place : ℤ) :
    Exponent ('e' :: (if place < 0 then '-' else '+') :: digitChars place.natAbs) place := by
  have hdigits := spellsNatural_toDigits place.natAbs
  rw [digitChars_eq]
  refine .power (.inl rfl) ?_
  by_cases hplace : place < 0
  · have h := Signed.minus hdigits
    rw [Int.ofNat_natAbs_of_nonpos hplace.le, neg_neg] at h
    rwa [if_pos hplace]
  · have h := Signed.plus hdigits
    rw [Int.natAbs_of_nonneg (not_lt.mp hplace)] at h
    rwa [if_neg hplace]

/-- Zeros in front of digits are without effect. -/
theorem ofDigitChars_zeros_append (n : ℕ) (digits : List Char) :
    Nat.ofDigitChars 10 (List.replicate n '0' ++ digits) 0 = Nat.ofDigitChars 10 digits 0 := by
  rw [Nat.ofDigitChars_append, Nat.ofDigitChars_replicate_zero, Nat.mul_zero]

/-- Each zero behind digits makes them ten times as much. -/
theorem ofDigitChars_append_zeros (digits : List Char) (n : ℕ) :
    Nat.ofDigitChars 10 (digits ++ List.replicate n '0') 0 =
      10 ^ n * Nat.ofDigitChars 10 digits 0 := by
  rw [Nat.ofDigitChars_append, Nat.ofDigitChars_replicate_zero]

theorem isDigit_of_mem_replicate {n : ℕ} : ∀ c ∈ List.replicate n '0', c.isDigit = true := by
  intro c hc
  rw [List.eq_of_mem_replicate hc]
  rfl

/-- The first digit, a point if there are more, and an exponent. -/
theorem magnitude_scientific (digits : List Char) (place : ℤ) :
    digits ≠ [] → (∀ c ∈ digits, c.isDigit = true) →
      Magnitude ((match digits with
          | [] => []
          | [d] => [d]
          | d :: more => d :: '.' :: more)
          ++ 'e' :: (if place < 0 then '-' else '+') :: digitChars place.natAbs)
        (Nat.ofDigitChars 10 digits 0 * 10 ^ (place - digits.length + 1)) := by
  intro hne hdigits
  cases digits with
  | nil => exact absurd rfl hne
  | cons d more =>
      have hd : ∀ c ∈ [d], c.isDigit = true :=
        List.forall_mem_singleton.mpr (hdigits d List.mem_cons_self)
      have hplace : place - ((d :: more).length : ℤ) + 1 = place - more.length := by
        rw [List.length_cons]
        omega
      rw [hplace]
      cases more with
      | nil => exact .parts hd .absent (by simp) (exponent_place place)
      | cons d' more =>
          have hfraction : Fraction ('.' :: d' :: more) (d' :: more) :=
            .digits (by simp) fun c hc => hdigits c (List.mem_cons_of_mem d hc)
          exact .parts hd hfraction (by simp) (exponent_place place)

section Layouts

variable {digits : List Char} (hne : digits ≠ []) (hdigits : ∀ c ∈ digits, c.isDigit = true)

include hne hdigits

/-- The point in front of all digits, with the zeros that are missing between them. -/
theorem magnitude_behind_point (n : ℕ) :
    Magnitude ('0' :: '.' :: (List.replicate n '0' ++ digits))
      (Nat.ofDigitChars 10 digits 0 * 10 ^ (-(n + digits.length) : ℤ)) := by
  have hpointed := Magnitude.pointed (List.forall_mem_singleton.mpr (rfl : '0'.isDigit = true))
    (List.append_ne_nil_of_right_ne_nil (List.replicate n '0') hne)
    (List.forall_mem_append.mpr ⟨isDigit_of_mem_replicate, hdigits⟩)
  have hvalue := ofDigitChars_zeros_append (n + 1) digits
  rw [List.length_append, List.length_replicate, Nat.cast_add] at hpointed
  rw [← hvalue]
  exact hpointed

/-- All digits in front of the point, with the zeros that are missing behind them. -/
theorem magnitude_before_point (n : ℕ) :
    Magnitude (digits ++ List.replicate n '0' ++ ['.', '0'])
      (Nat.ofDigitChars 10 digits 0 * 10 ^ (n : ℤ)) := by
  have hwhole : SpellsNatural (digits ++ List.replicate n '0')
      (Nat.ofDigitChars 10 (digits ++ List.replicate n '0') 0) :=
    .digits (by simp [hne]) (List.forall_mem_append.mpr ⟨hdigits, isDigit_of_mem_replicate⟩)
  have hzero := hwhole.magnitude_zero
  rw [ofDigitChars_append_zeros, Int.cast_natCast, Nat.cast_mul, Nat.cast_pow, mul_comm] at hzero
  rw [zpow_natCast]
  exact hzero

omit hne in
/-- The point among the digits. -/
theorem magnitude_pointed {n : ℕ} (hn : n < digits.length) :
    Magnitude (pointed digits n) (Nat.ofDigitChars 10 digits 0 * 10 ^ (n - digits.length : ℤ)) := by
  have hpointed := Magnitude.pointed
    (fun c (hc : c ∈ digits.take n) => hdigits c (List.mem_of_mem_take hc))
    (fun hnil => absurd (List.drop_eq_nil_iff.mp hnil) (Nat.not_le_of_lt hn))
    (fun c hc => hdigits c (List.mem_of_mem_drop hc))
  rw [List.take_append_drop, List.length_drop, Nat.cast_sub hn.le, neg_sub] at hpointed
  exact hpointed

/-- **Digits at a place.**  However they are written, they are the number whose leading digit
stands for that power of ten. -/
theorem magnitude_magnitudeChars (place : ℤ) :
    Magnitude (magnitudeChars digits place)
      (Nat.ofDigitChars 10 digits 0 * 10 ^ (place - digits.length + 1)) := by
  unfold magnitudeChars
  by_cases hfar : place < -5 ∨ 16 ≤ place
  · rw [if_pos hfar]
    exact magnitude_scientific digits place hne hdigits
  rw [if_neg hfar]
  by_cases hsmall : place < 0
  · rw [if_pos hsmall]
    have hplace : place - digits.length + 1 = -((place.natAbs - 1 : ℕ) + digits.length : ℤ) := by
      omega
    rw [hplace]
    exact magnitude_behind_point hne hdigits _
  rw [if_neg hsmall]
  by_cases hlength : digits.length ≤ place.toNat + 1
  · simp only [if_pos hlength]
    have hplace : place - digits.length + 1 = ((place.toNat + 1 - digits.length : ℕ) : ℤ) := by
      omega
    rw [hplace]
    exact magnitude_before_point hne hdigits _
  · simp only [if_neg hlength]
    have hplace : place - digits.length + 1 = ((place.toNat + 1 : ℕ) : ℤ) - digits.length := by
      omega
    rw [hplace]
    exact magnitude_pointed hdigits (Nat.lt_of_not_le hlength)

end Layouts

/-- The digits show a point or an exponent at each place. -/
theorem hasFraction_magnitudeChars (digits : List Char) (place : ℤ) :
    HasFraction (magnitudeChars digits place) := by
  unfold magnitudeChars
  by_cases hfar : place < -5 ∨ 16 ≤ place
  · rw [if_pos hfar]
    exact ⟨'e', List.mem_append_right _ List.mem_cons_self, .inr (.inl rfl)⟩
  rw [if_neg hfar]
  refine ⟨'.', ?_, .inl rfl⟩
  by_cases hsmall : place < 0
  · rw [if_pos hsmall]
    exact List.mem_cons_of_mem _ List.mem_cons_self
  rw [if_neg hsmall]
  by_cases hlength : digits.length ≤ place.toNat + 1
  · simp only [if_pos hlength]
    exact List.mem_append_right _ List.mem_cons_self
  · simp only [if_neg hlength]
    exact List.mem_append_right _ List.mem_cons_self

/-- The characters of a decimal without its sign. -/
def magnitudeText (d : Decimal) : List Char :=
  if d.digits = 0 then ['0', '.', '0']
  else magnitudeChars (digitChars d.digits) (d.exponent + (digitChars d.digits).length - 1)

/-- A decimal is its magnitude with a sign in front if it is negative. -/
theorem toList_text (d : Decimal) :
    d.text.toList = if d.negative then '-' :: d.magnitudeText else d.magnitudeText :=
  String.toList_ofList

/-- The text of a magnitude stands for it. -/
theorem magnitude_magnitudeText (d : Decimal) :
    Magnitude d.magnitudeText (d.digits * 10 ^ d.exponent) := by
  unfold magnitudeText
  by_cases hzero : d.digits = 0
  · rw [if_pos hzero, hzero, Nat.cast_zero, zero_mul]
    exact (spellsNatural_toDigits 0).magnitude_zero
  · rw [if_neg hzero]
    have hdigits := (spellsNatural_toDigits d.digits).isDigit
    rw [digitChars_eq]
    have h := magnitude_magnitudeChars hdigits.1 hdigits.2
      (d.exponent + (Nat.toDigits 10 d.digits).length - 1)
    have hplace : d.exponent + ((Nat.toDigits 10 d.digits).length : ℤ) - 1 -
        (Nat.toDigits 10 d.digits).length + 1 = d.exponent := by omega
    rw [Nat.ofDigitChars_ten_toDigits, hplace] at h
    exact h

/-- **The text of a decimal** is a number as Kotlin writes them, and the same one. -/
theorem spellsNumber_text (d : Decimal) : SpellsNumber d.text.toList d.value := by
  have hmagnitude := d.magnitude_magnitudeText
  rw [toList_text, value]
  cases d.negative with
  | false => exact .bare hmagnitude
  | true => exact .minus hmagnitude

/-- A decimal is written with a point or an exponent. -/
theorem hasFraction_text (d : Decimal) : HasFraction d.text.toList := by
  have hmagnitude : HasFraction d.magnitudeText := by
    unfold magnitudeText
    by_cases hzero : d.digits = 0
    · rw [if_pos hzero]
      exact ⟨'.', by decide, .inl rfl⟩
    · rw [if_neg hzero]
      exact hasFraction_magnitudeChars _ _
  rw [toList_text]
  cases d.negative with
  | false => exact hmagnitude
  | true =>
      obtain ⟨c, hc, hmark⟩ := hmagnitude
      exact ⟨c, List.mem_cons_of_mem _ hc, hmark⟩

/-- So no integer is written for a decimal, not even for one that is whole. -/
theorem not_spellsInteger_text (d : Decimal) (n : ℤ) : ¬SpellsInteger d.text.toList n :=
  fun h => h.not_hasFraction d.hasFraction_text

end Decimal

end ClientGen
