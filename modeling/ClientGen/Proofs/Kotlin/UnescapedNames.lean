import ClientGen.Kotlin.ApiFile
import ClientGen.Kotlin.InterceptorFile
import ClientGen.Proofs.Casings
import ClientGen.Proofs.Kotlin.MemberNames

/-!
# Names that are written without escaping

The name of an interface and the constants of the interceptor are casings of a tag and of
the keys of schemes, and they are written as they are.  What is put behind them, `Api`,
`_SCHEME` or a number, makes no identifier of a text that is none, and it does not spoil
one; so everything depends on the casing.  No such name is a hard keyword: an interface has
a capital in its name, and a constant starts with no small letter of ASCII.

* `isLegalName_interfaceName_iff`, `forall_isLegalName_schemeTexts_iff`: the two kinds;
* `unescapedNames_legal_iff`: they and the casings in general.
-/

namespace ClientGen.Kotlin

open Naming (IsNameText StartsWithDigit IsCasable words)
open Text (IsNameChar markedCapitals markedSmall)

/-- A name that may be written as it is: an identifier, and no hard keyword. -/
def IsLegalName (name : String) : Prop := IsNameText name.toList ∧ name ∉ hardKeywords

/-! ### Interfaces -/

/-- The name of an interface is legal exactly if the tag in capitalized words is an
identifier. -/
theorem isLegalName_interfaceName_iff (api : AnalyzedApi) (hname : api.group.name.pascal ≠ "") :
    IsLegalName (interfaceName api) ↔ IsNameText api.group.name.pascal.toList := by
  have hne : api.group.name.pascal.toList ≠ [] := fun h => hname (String.toList_inj.mp h)
  have htext : (interfaceName api).toList = api.group.name.pascal.toList ++ "Api".toList :=
    String.toList_append
  have hword : interfaceName api ∉ hardKeywords := by
    have hkeywords : ∀ word ∈ hardKeywords, 'A' ∉ word.toList := by decide
    intro hmem
    refine hkeywords _ hmem ?_
    rw [htext]
    exact List.mem_append_right _ (by decide)
  have hchars : ∀ c ∈ "Api".toList, IsNameChar c := Text.forall_isNameChar (by decide)
  rw [IsLegalName, htext, Naming.isNameText_append_iff hne hchars]
  exact and_iff_left hword

/-! ### Constants -/

/-- The first character is no small letter of ASCII. -/
def BeginsInUppercase (s : String) : Prop := ∃ d ∈ s.toList.head?, d.isLower = false

/-- A name in capitals begins with one, if it begins with a letter. -/
theorem beginsInUppercase_screaming (key : String) :
    BeginsInUppercase (Name.ofText key).screaming := by
  obtain ⟨c, word, ws, hwords, _⟩ := Naming.exists_words_eq key
  obtain ⟨d, rest, hupper⟩ := List.exists_cons_of_ne_nil (Text.upper_ne_nil c)
  have hd : d ∈ Text.upper c := hupper ▸ List.mem_cons_self
  have hscreaming : (Name.ofText key).screaming =
      Naming.underscored ((words key).map Naming.uppered) := rfl
  refine ⟨d, ?_, Text.isLower_of_mem_upper hd⟩
  rw [hscreaming, hwords, List.map_cons, Naming.toList_underscored_cons, Naming.uppered,
    List.flatMap_cons, hupper]
  rfl

theorem BeginsInUppercase.ne_nil {s : String} (h : BeginsInUppercase s) : s.toList ≠ [] := by
  obtain ⟨d, hd, _⟩ := h
  intro hnil
  rw [hnil] at hd
  cases hd

/-- What stands behind a text does not change that it begins in capitals. -/
theorem BeginsInUppercase.append {s : String} (h : BeginsInUppercase s) (ext : String) :
    BeginsInUppercase (s ++ ext) := by
  obtain ⟨d, hd, hlower⟩ := h
  refine ⟨d, ?_, hlower⟩
  rw [String.toList_append, List.head?_append, hd]
  rfl

/-- Every hard keyword starts with a small letter of ASCII. -/
theorem BeginsInUppercase.not_mem_hardKeywords {s : String} (h : BeginsInUppercase s) :
    s ∉ hardKeywords := by
  have hkeywords : ∀ word ∈ hardKeywords, word.toList.head?.all Char.isLower = true := by decide
  obtain ⟨d, hd, hlower⟩ := h
  intro hmem
  have hkeyword := hkeywords s hmem
  rw [hd, Option.all_some, hlower] at hkeyword
  cases hkeyword

/-- The constant of a scheme before it is made unique. -/
theorem schemeConstant_eq (key : String) :
    ∃ ext : String, (∀ c ∈ ext.toList, IsNameChar c) ∧
      schemeConstant key = (Name.ofText key).screaming ++ ext := by
  rw [schemeConstant]
  by_cases hmarker : (Name.ofText key).screaming = markerConstant
  · exact ⟨"_SCHEME", Text.forall_isNameChar (by decide), if_pos hmarker⟩
  · exact ⟨"", by simp, by rw [if_neg hmarker, String.append_empty]⟩

/-- The constant of a scheme as it is written. -/
theorem exists_eq_of_isGivenFor {key constant : String}
    (h : IsGivenFor "_" (schemeConstant key) constant) :
    ∃ ext : String, (∀ c ∈ ext.toList, IsNameChar c) ∧
      constant = (Name.ofText key).screaming ++ ext := by
  obtain ⟨ext, hext, hconstant⟩ := schemeConstant_eq key
  rcases h with rfl | ⟨n, rfl⟩
  · exact ⟨ext, hext, hconstant⟩
  · refine ⟨ext ++ "_" ++ toString n, ?_, by
      rw [numbered, hconstant, String.append_assoc, String.append_assoc, String.append_assoc]⟩
    have hdigits : ∀ c ∈ (toString n).toList, IsNameChar c := by
      intro c hc
      rw [Nat.toString_eq_ofList_toDigits, String.toList_ofList] at hc
      have hdigit := Nat.isDigit_of_mem_toDigits (by omega) (by omega) hc
      exact .inl (Text.isAlphanumeric_of_isAlphanum (by rw [Char.isAlphanum, hdigit, Bool.or_true]))
    have hmark : ∀ c ∈ "_".toList, IsNameChar c := Text.forall_isNameChar (by decide)
    rw [String.toList_append, String.toList_append, List.forall_mem_append,
      List.forall_mem_append]
    exact ⟨⟨hext, hmark⟩, hdigits⟩

/-- It is legal exactly if the key in uppercase is an identifier. -/
theorem isLegalName_constant_iff {key constant : String}
    (h : IsGivenFor "_" (schemeConstant key) constant) :
    IsLegalName constant ↔ IsNameText (Name.ofText key).screaming.toList := by
  obtain ⟨ext, hext, rfl⟩ := exists_eq_of_isGivenFor h
  have hbegins := beginsInUppercase_screaming key
  rw [IsLegalName, String.toList_append, Naming.isNameText_append_iff hbegins.ne_nil hext]
  exact and_iff_left (hbegins.append ext).not_mem_hardKeywords

/-- The constants that are written for some schemes. -/
theorem constants_schemeTexts (schemes : List (String × SecurityScheme)) :
    (schemeTexts schemes).map (·.constant) = schemeConstants (schemes.map (·.1)) := by
  refine map_zipWith_name (fun _ _ => rfl) _ _ ?_
  rw [schemeConstants, length_uniqueNames, List.length_map, List.length_map]

/-- Each scheme is written under its key, with a constant that is given for it. -/
theorem forall₂_schemeTexts (schemes : List (String × SecurityScheme)) :
    List.Forall₂ (fun scheme t => t.key = scheme.1 ∧
      IsGivenFor "_" (schemeConstant scheme.1) t.constant) schemes (schemeTexts schemes) := by
  have hgiven : List.Forall₂
      (fun scheme constant => IsGivenFor "_" (schemeConstant scheme.1) constant)
      schemes (schemeConstants (schemes.map (·.1))) := by
    have h := forall₂_uniqueNames "_" ((schemes.map (·.1)).map schemeConstant)
    rwa [List.forall₂_map_left_iff, List.forall₂_map_left_iff] at h
  rw [schemeTexts]
  generalize schemeConstants (schemes.map (·.1)) = constants at hgiven
  induction hgiven with
  | nil => exact .nil
  | cons hfirst _ ih => exact .cons ⟨rfl, hfirst⟩ ih

/-- The constants of schemes are legal exactly if their names in capitals are names. -/
theorem forall_isLegalName_schemeTexts_iff (schemes : List (String × SecurityScheme)) :
    (∀ t ∈ schemeTexts schemes, IsLegalName t.constant) ↔
      ∀ scheme ∈ schemes, IsNameText (Name.ofText scheme.1).screaming.toList := by
  have hwritten := forall₂_schemeTexts schemes
  generalize schemeTexts schemes = texts at hwritten
  induction hwritten with
  | nil => simp
  | cons hfirst _ ih =>
      rw [List.forall_mem_cons, List.forall_mem_cons, isLegalName_constant_iff hfirst.2]
      exact and_congr_right fun _ => ih

/-! ### Both kinds -/

/-- **Names without escaping.**  All casings of a text are identifiers exactly if its first
alphanumeric character is no digit of ASCII and no letter needs a combining mark in another
case.  The interface of a tag has a legal name exactly if the tag starts with no such digit
and its words, capitalized, need no mark; the constants of the interceptor are legal exactly
if no key starts with one and no letter of a key needs a mark in uppercase. -/
theorem unescapedNames_legal_iff (s tag : String) (members : List Nat)
    (operations : List AnalyzedOperation) (schemes : List (String × SecurityScheme)) :
    ((IsNameText (Name.ofText s).pascal.toList ∧ IsNameText (Name.ofText s).camel.toList ∧
        IsNameText (Name.ofText s).snake.toList ∧ IsNameText (Name.ofText s).screaming.toList) ↔
      IsCasable s) ∧
    (IsLegalName (interfaceName ⟨⟨.ofText tag, members⟩, operations⟩) ↔
      ¬ StartsWithDigit tag ∧ ∀ word ∈ words tag,
        (∀ c ∈ word.head?, c ∉ markedCapitals) ∧ markedSmall ∉ word.tail) ∧
    ((∀ t ∈ schemeTexts schemes, IsLegalName t.constant) ↔
      ∀ scheme ∈ schemes, ¬ StartsWithDigit scheme.1 ∧
        ∀ c ∈ scheme.1.toList, c ∉ markedCapitals) := by
  refine ⟨Naming.isNameText_casings_iff s, ?_, ?_⟩
  · have hpascal := Naming.pascal_ne_empty tag
    exact (isLegalName_interfaceName_iff _ hpascal).trans (Naming.isNameText_pascal_iff tag)
  · refine (forall_isLegalName_schemeTexts_iff schemes).trans ?_
    exact forall₂_congr fun scheme _ => Naming.isNameText_screaming_iff scheme.1

/-- An underscore in front of a digit would be dropped by the words, so none is there: the
tag `1st` gives the interface `1stApi`, and the scheme `2fa` the constant `2FA`. -/
theorem not_isLegalName_of_digit :
    (Name.ofText "1st").pascal = "1st" ∧ ¬ IsNameText (Name.ofText "1st").pascal.toList ∧
      interfaceName ⟨⟨.ofText "1st", [0]⟩, []⟩ = "1stApi" ∧
      ¬ IsLegalName (interfaceName ⟨⟨.ofText "1st", [0]⟩, []⟩) ∧
      schemeConstants ["2fa"] = ["2FA"] ∧ ¬ IsLegalName "2FA" := by
  have hnot : ∀ (c : Char) (name : String), name.toList.head? = some c → c.isDigit = true →
      ¬ IsNameText name.toList := by
    intro c name hhead hdigit hname
    cases hdigit.symm.trans (hname.head c hhead)
  have hpascal : (Name.ofText "1st").pascal = "1st" := by decide +kernel
  have hinterface : interfaceName ⟨⟨.ofText "1st", [0]⟩, []⟩ = "1stApi" := by decide +kernel
  refine ⟨hpascal, ?_, hinterface, ?_, by decide +kernel, ?_⟩
  · rw [hpascal]
    exact hnot '1' _ rfl rfl
  · rw [hinterface]
    exact fun h => hnot '1' _ rfl rfl h.1
  · exact fun h => hnot '2' _ rfl rfl h.1

end ClientGen.Kotlin
