import ClientGen.Document.StatusCode
import ClientGen.Proofs.Text.Keywords

/-!
# Which keys declare a success

The key of a response declares a success if it is a number from 200 to 299, with or without
a plus sign in front, or a 2 and the letter x twice, in either case.  Blanks around it do
not count.  Nothing else declares a success, since `default` is no number and no range, and
a number is no range.

* `number?_eq_some_iff`: which texts stand for a number;
* `isSuccess_ofKey_iff`: the keys of successes.
-/

namespace ClientGen

namespace StatusCode

/-! ### Numbers -/

/-- A text stands for a number: decimal digits, perhaps behind a plus sign. -/
def Numeral (cs : List Char) (n : Nat) : Prop :=
  ∃ digits, (cs = digits ∨ cs = '+' :: digits) ∧ digits ≠ [] ∧
    (∀ c ∈ digits, c.isDigit = true) ∧ Nat.ofDigitChars 10 digits 0 = n

/-- Digits behind a number continue it. -/
theorem numberFrom?_eq_some_iff {m n : Nat} {cs : List Char} :
    numberFrom? m cs = some n ↔
      (∀ c ∈ cs, c.isDigit = true) ∧ Nat.ofDigitChars 10 cs m = n := by
  induction cs generalizing m with
  | nil => simp [numberFrom?, Nat.ofDigitChars]
  | cons c rest ih =>
      by_cases hc : c.isDigit = true
      · simp [numberFrom?, digit?, hc, ih, Nat.ofDigitChars]
      · simp [numberFrom?, digit?, hc]

theorem not_isDigit_plus : Char.isDigit '+' ≠ true := by decide

/-- **Numbers.**  Exactly the texts that stand for a number are read as one. -/
theorem number?_eq_some_iff {cs : List Char} {n : Nat} :
    number? cs = some n ↔ Numeral cs n := by
  unfold number?
  split
  · simp [Numeral]
  · -- A plus sign alone has no digits.
    constructor
    · intro h
      cases h
    · intro h
      obtain ⟨digits, hcs | hcs, hne, hdigits, _⟩ := h
      · exact (not_isDigit_plus (hdigits '+' (hcs ▸ List.mem_singleton_self _))).elim
      · exact (hne (List.cons.inj hcs).2.symm).elim
  · next rest hrest =>
    rw [numberFrom?_eq_some_iff]
    constructor
    · intro h
      exact ⟨rest, .inr rfl, hrest, h⟩
    · intro h
      obtain ⟨digits, hcs | hcs, _, hdigits⟩ := h
      · exact (not_isDigit_plus (hdigits.1 '+' (hcs ▸ List.mem_cons_self))).elim
      · rw [(List.cons.inj hcs).2]
        exact hdigits
  · next hnil _ hplus =>
    rw [numberFrom?_eq_some_iff]
    constructor
    · intro h
      exact ⟨cs, .inl rfl, hnil, h⟩
    · intro h
      obtain ⟨digits, hcs | hcs, _, hdigits⟩ := h
      · rw [hcs]
        exact hdigits
      · exact (hplus digits hcs).elim

/-! ### Successes -/

/-- A text declares a success. -/
inductive NamesSuccess : List Char → Prop
  | code {cs : List Char} {n : Nat} (hnumeral : Numeral cs n) (hlow : 200 ≤ n) (hhigh : n ≤ 299) :
      NamesSuccess cs
  | range {x y : Char} (hx : x = 'x' ∨ x = 'X') (hy : y = 'x' ∨ y = 'X') :
      NamesSuccess ['2', x, y]

/-- The key of a response declares a success, perhaps with blanks around. -/
def IsSuccessKey (key : String) : Prop :=
  ∃ text, Surrounds text key.toList ∧ NamesSuccess text

/-- The code points of digits lie together. -/
theorem toNat_of_isDigit {c : Char} (h : c.isDigit = true) : 48 ≤ c.toNat ∧ c.toNat ≤ 57 := by
  simp only [Char.isDigit, Bool.and_eq_true, decide_eq_true_eq] at h
  exact ⟨UInt32.le_iff_toNat_le.mp h.1, UInt32.le_iff_toNat_le.mp h.2⟩

/-- Digits have no case. -/
theorem toLower_of_isDigit {c : Char} (h : c.isDigit = true) : c.toLower = c := by
  refine Char.toLower_eq_of_not_isUpper fun hupper => ?_
  have hdigit := (toNat_of_isDigit h).2
  simp only [Char.isUpper, decide_eq_true_eq, UInt32.le_iff_toNat_le] at hupper
  exact absurd (hupper.1.trans hdigit) (by decide)

/-- The letter of a range may be a capital. -/
theorem toLower_eq_x_iff {c : Char} : c.toLower = 'x' ↔ c = 'x' ∨ c = 'X' :=
  toLower_eq_iff (by decide)

/-- A text that stands for a number has nothing but digits and a plus sign. -/
theorem Numeral.isDigit_or_eq {cs : List Char} {n : Nat} (h : Numeral cs n) {c : Char}
    (hc : c ∈ cs) : c = '+' ∨ c.isDigit = true := by
  obtain ⟨digits, hcs, _, hdigits, _⟩ := h
  rcases hcs with rfl | rfl
  · exact .inr (hdigits c hc)
  · exact (List.mem_cons.mp hc).imp_right (hdigits c)

/-- No number is spelled like the word for everything else. -/
theorem Numeral.ne_default {cs : List Char} {n : Nat} (h : Numeral cs n) :
    cs.map Char.toLower ≠ "default".toList := by
  intro heq
  have hmem : 'd' ∈ cs.map Char.toLower := by
    rw [heq]
    decide
  obtain ⟨c, hc, hlower⟩ := List.mem_map.mp hmem
  rcases h.isDigit_or_eq hc with rfl | hdigit
  · exact absurd hlower (by decide)
  · rw [toLower_of_isDigit hdigit] at hlower
    rw [hlower] at hdigit
    exact absurd hdigit (by decide)

theorem eq_two_of_digit? {c : Char} (h : digit? c = some 2) : c = '2' := by
  obtain ⟨hdigit, hvalue⟩ := Option.ite_none_right_eq_some.mp h
  have hlow := (toNat_of_isDigit hdigit).1
  have hdifference : c.toNat - 48 = 2 := Option.some.inj hvalue
  have hcode : c.toNat = 50 := by omega
  exact Char.toNat_inj.mp hcode

/-- A range of successes is written with a 2. -/
theorem namesSuccess_of_range? {cs : List Char} (h : range? cs = some 2) : NamesSuccess cs := by
  unfold range? at h
  split at h
  · next c x y =>
    obtain ⟨⟨hx, hy⟩, hc⟩ := Option.ite_none_right_eq_some.mp h
    rw [eq_two_of_digit? hc]
    exact .range (toLower_eq_x_iff.mp hx) (toLower_eq_x_iff.mp hy)
  · cases h

/-- **One key.**  It is read as a success exactly if what is inside its blanks declares one. -/
theorem isSuccess_iff_namesSuccess {key : String} :
    (ofKey key).isSuccess = true ↔ NamesSuccess (Text.trimChars key.toList) := by
  simp only [ofKey]
  generalize Text.trimChars key.toList = cs
  constructor
  · intro h
    split at h
    · cases h
    · split at h
      · next n hcode =>
        obtain ⟨hnumber, _⟩ := Option.filter_eq_some_iff.mp hcode
        simp only [isSuccess, Bool.and_eq_true, decide_eq_true_eq] at h
        exact .code (number?_eq_some_iff.mp hnumber) h.1 h.2
      · next d _ hrange =>
        have hd : d = 2 := by simpa [isSuccess] using h
        rw [hd] at hrange
        exact namesSuccess_of_range? hrange
      · cases h
  · intro h
    cases h with
    | @code _ n hnumeral hlow hhigh =>
        have hnumber := number?_eq_some_iff.mpr hnumeral
        have hcode : code? cs = some n :=
          Option.filter_eq_some_iff.mpr ⟨hnumber, decide_eq_true (by omega)⟩
        rw [if_neg hnumeral.ne_default, hcode]
        simp [isSuccess, hlow, hhigh]
    | range hx hy =>
        -- There are four such texts.
        rcases hx with rfl | rfl <;> rcases hy with rfl | rfl <;> decide

/-- A text that declares a success has no blanks. -/
theorem NamesSuccess.not_isBlank {text : List Char} (h : NamesSuccess text) {c : Char}
    (hc : c ∈ text) : Text.isBlank c = false := by
  cases h with
  | code hnumeral _ _ =>
      rcases hnumeral.isDigit_or_eq hc with rfl | hdigit
      · decide
      · exact isBlank_of_isAlphanum (by rw [Char.isAlphanum, hdigit, Bool.or_true])
  | @range x y hx hy =>
      have hcases : c = '2' ∨ c = x ∨ c = y := by simpa using hc
      rcases hcases with rfl | rfl | rfl
      · decide
      · rcases hx with rfl | rfl <;> decide
      · rcases hy with rfl | rfl <;> decide

/-- A text that declares a success is not empty. -/
theorem NamesSuccess.ne_nil {text : List Char} (h : NamesSuccess text) : text ≠ [] := by
  intro hnil
  subst hnil
  cases h with
  | code hnumeral _ _ =>
      obtain ⟨digits, hcs | hcs, hne, _⟩ := hnumeral
      · exact hne hcs.symm
      · cases hcs

/-- **Successes.**  Exactly the keys that declare a success are read as one. -/
theorem isSuccess_ofKey_iff {key : String} : (ofKey key).isSuccess = true ↔ IsSuccessKey key := by
  rw [isSuccess_iff_namesSuccess]
  constructor
  · intro h
    exact ⟨_, surrounds_trimChars key.toList, h⟩
  · intro h
    obtain ⟨text, hsurrounds, htext⟩ := h
    rwa [hsurrounds.trimChars_eq (fun c hc => htext.not_isBlank hc) htext.ne_nil]

end StatusCode

end ClientGen
