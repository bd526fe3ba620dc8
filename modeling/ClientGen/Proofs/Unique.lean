import ClientGen.Unique
import Mathlib.Data.List.Induction
import Mathlib.Data.List.Nodup
import Mathlib.Data.List.Perm.Subperm
import Mathlib.Order.Bounds.Basic

/-!
# Names that were made unique differ

A search for a number tries one candidate more than there are names taken, and candidates
with different numbers are different texts; so one of them is free, and the search finds
the least.  A name that is given out is therefore none of those before it, and it is the
name that was asked for, perhaps with a number behind it.

* `numbered_injective`: candidates differ;
* `freeNumber_spec`, `numbered_freeNumber_not_mem`: what the search finds;
* `freshName_not_mem`, `freshName_eq_or`: one name;
* `nodup_uniqueNames`, `forall₂_uniqueNames`: all names;
* `isNextAfter_iff`, `isMadeUnique_iff`: the rule by which names are given out, and that
  nothing else keeps to it;
* `uniqueNames_change_least`: no name is changed that need not be.
-/

namespace ClientGen

variable {separator name : String} {taken : List String}

/-- Candidates with different numbers are different texts. -/
theorem numbered_injective (separator name : String) :
    Function.Injective (numbered separator name) := by
  intro m n h
  have hdigits := (String.append_right_inj _).mp h
  have hchars := congrArg String.toList hdigits
  simp only [Nat.toString_eq_ofList_toDigits, String.toList_ofList] at hchars
  have hvalue := congrArg (fun cs => Nat.ofDigitChars 10 cs 0) hchars
  simpa [Nat.ofDigitChars_toDigits] using hvalue

/-- The number that is found is not below the first that is tried, all between them are
taken, and it is itself taken only if the search has come to its end. -/
theorem freeNumber_spec (separator : String) (taken : List String) (name : String)
    (n tries : Nat) :
    n ≤ freeNumber separator taken name n tries ∧
      (∀ k, n ≤ k → k < freeNumber separator taken name n tries →
        numbered separator name k ∈ taken) ∧
      (numbered separator name (freeNumber separator taken name n tries) ∉ taken ∨
        freeNumber separator taken name n tries = n + tries) := by
  induction tries generalizing n with
  | zero =>
      have hfound : freeNumber separator taken name n 0 = n := rfl
      rw [hfound]
      exact ⟨Nat.le_refl n, fun k hle hlt => absurd hlt (by omega), .inr rfl⟩
  | succ tries ih =>
      rw [freeNumber]
      by_cases htaken : numbered separator name n ∈ taken
      · rw [if_pos htaken]
        obtain ⟨hle, hbetween, hend⟩ := ih (n + 1)
        refine ⟨by omega, fun k hk hlt => ?_, hend.imp_right fun h => by omega⟩
        by_cases hfirst : k = n
        · rw [hfirst]
          exact htaken
        · exact hbetween k (by omega) hlt
      · rw [if_neg htaken]
        exact ⟨Nat.le_refl n, fun k hle hlt => absurd hlt (by omega), .inl htaken⟩

/-- As many candidates as there are names taken, and one more, are not all taken. -/
theorem exists_numbered_not_mem (separator : String) (taken : List String) (name : String)
    (n : Nat) : ∃ k, n ≤ k ∧ k ≤ n + taken.length ∧ numbered separator name k ∉ taken := by
  by_contra hnone
  have hall : ∀ k, n ≤ k → k ≤ n + taken.length → numbered separator name k ∈ taken := by
    intro k hle hlast
    by_contra hfree
    exact hnone ⟨k, hle, hlast, hfree⟩
  have hdifferent : ((List.range' n (taken.length + 1)).map (numbered separator name)).Nodup :=
    (List.nodup_range' 1).map (numbered_injective separator name)
  have hsubset : (List.range' n (taken.length + 1)).map (numbered separator name) ⊆ taken := by
    intro candidate hcandidate
    obtain ⟨k, hk, rfl⟩ := List.mem_map.mp hcandidate
    have hrange := List.mem_range'_1.mp hk
    exact hall k hrange.1 (by omega)
  have hlength := (hdifferent.subperm hsubset).length_le
  rw [List.length_map, List.length_range'] at hlength
  omega

/-- **The search.**  With as many tries as there are names taken it finds a number whose
candidate is free. -/
theorem numbered_freeNumber_not_mem (separator : String) (taken : List String) (name : String)
    (n : Nat) :
    numbered separator name (freeNumber separator taken name n taken.length) ∉ taken := by
  obtain ⟨hle, hbetween, hend⟩ := freeNumber_spec separator taken name n taken.length
  rcases hend with hfree | hlast
  · exact hfree
  · obtain ⟨k, hk, hbound, hfree⟩ := exists_numbered_not_mem separator taken name n
    by_cases hlt : k < freeNumber separator taken name n taken.length
    · exact absurd (hbetween k hk hlt) hfree
    · have heq : freeNumber separator taken name n taken.length = k := by omega
      rwa [heq]

/-- A name that is given out was not given out before. -/
theorem freshName_not_mem (separator : String) (taken : List String) (name : String) :
    freshName separator taken name ∉ taken := by
  rw [freshName]
  by_cases htaken : name ∈ taken
  · rw [if_pos htaken]
    exact numbered_freeNumber_not_mem separator taken name 2
  · rwa [if_neg htaken]

/-- It is the name that was asked for, if that is free, or else a candidate. -/
theorem freshName_eq_or (separator : String) (taken : List String) (name : String) :
    (name ∉ taken ∧ freshName separator taken name = name) ∨
      (name ∈ taken ∧ ∃ n, freshName separator taken name = numbered separator name n) := by
  rw [freshName]
  by_cases htaken : name ∈ taken
  · rw [if_pos htaken]
    exact .inr ⟨htaken, _, rfl⟩
  · rw [if_neg htaken]
    exact .inl ⟨htaken, rfl⟩

theorem length_uniqueFrom (taken names : List String) :
    (uniqueFrom separator taken names).length = names.length := by
  induction names generalizing taken with
  | nil => rfl
  | cons name rest ih => rw [uniqueFrom, List.length_cons, List.length_cons, ih]

/-- Names that are given out one after another differ from each other and from those that
were given out before. -/
theorem nodup_uniqueFrom (taken names : List String) :
    (uniqueFrom separator taken names).Nodup ∧
      ∀ result ∈ uniqueFrom separator taken names, result ∉ taken := by
  induction names generalizing taken with
  | nil => exact ⟨List.nodup_nil, fun _ h => absurd h List.not_mem_nil⟩
  | cons name rest ih =>
      obtain ⟨hrest, hlater⟩ := ih (freshName separator taken name :: taken)
      rw [uniqueFrom]
      constructor
      · refine List.nodup_cons.mpr ⟨fun hmem => ?_, hrest⟩
        exact hlater _ hmem List.mem_cons_self
      · intro result hresult
        rcases List.mem_cons.mp hresult with rfl | hresult
        · exact freshName_not_mem separator taken name
        · exact fun hmem => hlater result hresult (List.mem_cons_of_mem _ hmem)

/-- **Names that are made unique differ.** -/
theorem nodup_uniqueNames (separator : String) (names : List String) :
    (uniqueNames separator names).Nodup :=
  (nodup_uniqueFrom [] names).1

/-- Making names unique keeps their number. -/
theorem length_uniqueNames (separator : String) (names : List String) :
    (uniqueNames separator names).length = names.length :=
  length_uniqueFrom [] names

/-- A name that is given out for another one: that one itself, or a candidate. -/
def IsGivenFor (separator name result : String) : Prop :=
  result = name ∨ ∃ n, result = numbered separator name n

/-- Each name that is given out is for the one that was asked for in its place. -/
theorem forall₂_uniqueNames (separator : String) (names : List String) :
    List.Forall₂ (IsGivenFor separator) names (uniqueNames separator names) := by
  have hfrom : ∀ (names taken : List String),
      List.Forall₂ (IsGivenFor separator) names (uniqueFrom separator taken names) := by
    intro names
    induction names with
    | nil => exact fun _ => .nil
    | cons name rest ih =>
        intro taken
        have hfirst : IsGivenFor separator name (freshName separator taken name) :=
          (freshName_eq_or separator taken name).imp (fun h => h.2) fun h => h.2
        exact .cons hfirst (ih _)
  exact hfrom names []

/-! ### The rule -/

/-- The name that is given out for another one behind some results: this one, if it is none of
them, and otherwise with the least number from two on that makes it none of them. -/
def IsNextAfter (separator : String) (earlier : List String) (name result : String) : Prop :=
  (name ∉ earlier ∧ result = name) ∨
    (name ∈ earlier ∧ ∃ n, IsLeast {k | 2 ≤ k ∧ numbered separator name k ∉ earlier} n ∧
      result = numbered separator name n)

/-- Results for some names, one for each, every one of which is the next after those before
it. -/
structure IsMadeUnique (separator : String) (names results : List String) : Prop where
  length_eq : results.length = names.length
  next : ∀ i (hname : i < names.length) (hresult : i < results.length),
    IsNextAfter separator (results.take i) names[i] results[i]

/-- As many tries as there are names taken find the least number that is free. -/
theorem isLeast_freeNumber (separator : String) (taken : List String) (name : String) (n : Nat) :
    IsLeast {k | n ≤ k ∧ numbered separator name k ∉ taken}
      (freeNumber separator taken name n taken.length) := by
  obtain ⟨hle, hbetween, _⟩ := freeNumber_spec separator taken name n taken.length
  refine ⟨⟨hle, numbered_freeNumber_not_mem separator taken name n⟩, ?_⟩
  rintro k ⟨hk, hfree⟩
  by_contra hlt
  exact hfree (hbetween k hk (by omega))

/-- **One name.**  What is given out is the next name, and nothing else is. -/
theorem isNextAfter_iff {result : String} :
    IsNextAfter separator taken name result ↔ result = freshName separator taken name := by
  have hleast := isLeast_freeNumber separator taken name 2
  rw [IsNextAfter, freshName]
  by_cases htaken : name ∈ taken
  · rw [if_pos htaken]
    constructor
    · rintro (⟨hfree, _⟩ | ⟨_, n, hn, hresult⟩)
      · exact absurd htaken hfree
      · rw [hresult, hn.unique hleast]
    · exact fun hresult => .inr ⟨htaken, _, hleast, hresult⟩
  · rw [if_neg htaken]
    constructor
    · rintro (⟨_, hresult⟩ | ⟨hmem, _⟩)
      · exact hresult
      · exact absurd hmem htaken
    · exact fun hresult => .inl ⟨htaken, hresult⟩

/-- The order in which results were given out does not matter to the next one. -/
theorem freshName_reverse (separator : String) (taken : List String) (name : String) :
    freshName separator taken.reverse name = freshName separator taken name := by
  have hnext : IsNextAfter separator taken name (freshName separator taken name) :=
    isNextAfter_iff.mpr rfl
  refine (isNextAfter_iff.mp ?_).symm
  simpa only [IsNextAfter, List.mem_reverse] using hnext

/-- What comes last is decided last: its result depends on all results before, and changes none of
them. -/
theorem uniqueFrom_concat (taken names : List String) (name : String) :
    uniqueFrom separator taken (names ++ [name]) =
      uniqueFrom separator taken names ++
        [freshName separator ((uniqueFrom separator taken names).reverse ++ taken) name] := by
  induction names generalizing taken with
  | nil => rfl
  | cons first rest ih => simp [uniqueFrom, ih]

/-- One name more has one result more, the next after all others. -/
theorem uniqueNames_concat (separator : String) (names : List String) (name : String) :
    uniqueNames separator (names ++ [name]) =
      uniqueNames separator names ++ [freshName separator (uniqueNames separator names) name] := by
  rw [uniqueNames, uniqueFrom_concat, List.append_nil, freshName_reverse]
  rfl

/-- One result more keeps to the rule exactly if it is the next. -/
theorem isMadeUnique_concat_iff {names results : List String} {result : String} :
    IsMadeUnique separator (names ++ [name]) (results ++ [result]) ↔
      IsMadeUnique separator names results ∧ IsNextAfter separator results name result := by
  constructor
  · intro h
    have hlength : results.length = names.length := by simpa using h.length_eq
    refine ⟨⟨hlength, fun i hname hresult => ?_⟩, ?_⟩
    · have hnext := h.next i (by simp; omega) (by simp; omega)
      rwa [List.take_append_of_le_length (by omega), List.getElem_append_left hname,
        List.getElem_append_left hresult] at hnext
    · have hnext := h.next names.length (by simp) (by simp [hlength])
      simpa [← hlength] using hnext
  · rintro ⟨h, hlast⟩
    have hlength := h.length_eq
    refine ⟨by simp [hlength], fun i hname hresult => ?_⟩
    by_cases hi : i < names.length
    · rw [List.take_append_of_le_length (by omega), List.getElem_append_left hi,
        List.getElem_append_left (by omega)]
      exact h.next i hi (by omega)
    · have hend : i = results.length := by simp at hname; omega
      subst hend
      simpa [hlength] using hlast

/-- **All names.**  The rule is kept by the names that are made unique, and by nothing
else. -/
theorem isMadeUnique_iff {names results : List String} :
    IsMadeUnique separator names results ↔ results = uniqueNames separator names := by
  induction names using List.reverseRecOn generalizing results with
  | nil =>
      constructor
      · exact fun h => List.length_eq_zero_iff.mp h.length_eq
      · rintro rfl
        exact ⟨rfl, fun i hname => absurd hname (by simp)⟩
  | append_singleton names name ih =>
      rw [uniqueNames_concat]
      rcases List.eq_nil_or_concat' results with rfl | ⟨results, result, rfl⟩
      · exact iff_of_false (fun h => absurd h.length_eq (by simp)) (by simp)
      · rw [isMadeUnique_concat_iff, ih, isNextAfter_iff, List.append_singleton_inj]
        exact and_congr_right fun h => by rw [h]

/-- Names that differ stay as they are. -/
theorem uniqueNames_of_nodup {names : List String} (h : names.Nodup) :
    uniqueNames separator names = names := by
  induction names using List.reverseRecOn with
  | nil => rfl
  | append_singleton names name ih =>
      obtain ⟨hnames, _, hname⟩ := List.nodup_append.mp h
      have hfree : name ∉ names := fun hmem => hname name hmem name (by simp) rfl
      rw [uniqueNames_concat, ih hnames, freshName, if_neg hfree]

/-- **Least change.**  There is one result for each name, the name itself where no earlier result
is the same, and otherwise the name with an underscore and the least number from two on behind it
that no earlier result is the same as; nothing else keeps to this rule.  All results differ,
names that differ already stay as they are, and so nothing changes the second time. -/
theorem uniqueNames_change_least (names results : List String) :
    (results = uniqueNames "_" names ↔ IsMadeUnique "_" names results) ∧
      (uniqueNames "_" names).Nodup ∧ (uniqueNames "_" names = names ↔ names.Nodup) ∧
      uniqueNames "_" (uniqueNames "_" names) = uniqueNames "_" names := by
  have hnodup := nodup_uniqueNames "_" names
  have hsame : uniqueNames "_" names = names ↔ names.Nodup :=
    ⟨fun h => h ▸ hnodup, uniqueNames_of_nodup⟩
  exact ⟨isMadeUnique_iff.symm, hnodup, hsame, uniqueNames_of_nodup hnodup⟩

/-- A name with a number can itself be repeated, and gets another one. -/
example : uniqueNames "_" ["pet", "pet", "pet_2", "pet", "pet_2_2"] =
    ["pet", "pet_2", "pet_2_2", "pet_3", "pet_2_2_2"] := by decide +kernel

/-! ### Numbers without a separator -/

/-- A text is another one, perhaps with digits behind it. -/
def HasDigitsBehind (name result : String) : Prop :=
  ∃ digits, (∀ c ∈ digits, c.isDigit = true) ∧ result.toList = name.toList ++ digits

theorem hasDigitsBehind_refl (name : String) : HasDigitsBehind name name :=
  ⟨[], fun _ h => absurd h List.not_mem_nil, (List.append_nil _).symm⟩

theorem HasDigitsBehind.trans {result last : String} (h : HasDigitsBehind name result)
    (hlast : HasDigitsBehind result last) : HasDigitsBehind name last := by
  obtain ⟨digits, hdigits, hresult⟩ := h
  obtain ⟨more, hmore, heq⟩ := hlast
  refine ⟨digits ++ more, fun c hc => ?_, by rw [heq, hresult, List.append_assoc]⟩
  exact (List.mem_append.mp hc).elim (hdigits c) (hmore c)

/-- A number without a separator puts digits behind the name. -/
theorem hasDigitsBehind_numbered (name : String) (n : Nat) :
    HasDigitsBehind name (numbered "" name n) := by
  refine ⟨Nat.toDigits 10 n, fun c hc => ?_, ?_⟩
  · exact Nat.isDigit_of_mem_toDigits (by omega) (by omega) hc
  · rw [numbered, String.append_empty, String.toList_append, Nat.toString_eq_ofList_toDigits,
      String.toList_ofList]

/-- Whatever a name becomes without a separator, it has at most digits behind it. -/
theorem IsGivenFor.hasDigitsBehind {result : String} (h : IsGivenFor "" name result) :
    HasDigitsBehind name result := by
  rcases h with rfl | ⟨n, rfl⟩
  · exact hasDigitsBehind_refl result
  · exact hasDigitsBehind_numbered name n

end ClientGen
