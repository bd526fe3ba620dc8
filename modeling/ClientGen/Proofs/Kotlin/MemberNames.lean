import ClientGen.Kotlin.ModelFile
import ClientGen.Proofs.Kotlin.Identifiers
import ClientGen.Proofs.Unique
import Mathlib.Data.List.Nodup

/-!
# The names of properties and constants

The names of the members of a class or an enum are spelled first and then made unique, so
a number may be put behind a name that is already between backticks, and then it is no
identifier any more.  That happens exactly to the quoted names that are repeated: a number
never makes a new quoted name, so no other name can stand in the way of one.

* `forall_isIdentifier_uniqueFrom_iff`: names given out one after another;
* `isIdentifier_constantName_iff`: a constant in capitals;
* `memberNames_isIdentifier_iff`: when all members have names that are identifiers.
-/

namespace ClientGen.Kotlin

variable {refused : List Char}

/-! ### Names that are made unique -/

/-- **Names given out** after some others are identifiers exactly if they are spelled as
identifiers, and the quoted ones differ from each other and were not given out before. -/
theorem forall_isIdentifier_uniqueFrom_iff {taken names : List String}
    (hspelled : ∀ name ∈ names, IsSpelled name) :
    (∀ result ∈ uniqueFrom "_" taken names, IsIdentifier refused result) ↔
      (∀ name ∈ names, IsIdentifier refused name) ∧ (names.filter isQuoted).Nodup ∧
        ∀ name ∈ names.filter isQuoted, name ∉ taken := by
  induction names generalizing taken with
  | nil => simp [uniqueFrom]
  | cons name rest ih =>
      obtain ⟨hname, hrest⟩ := List.forall_mem_cons.mp hspelled
      rw [uniqueFrom, List.forall_mem_cons, ih hrest, List.forall_mem_cons]
      rcases freshName_eq_or "_" taken name with ⟨hfree, hfresh⟩ | ⟨htaken, n, hfresh⟩
      · -- A name that is free is given out as it is.
        rw [hfresh]
        by_cases hquoted : isQuoted name = true
        · rw [List.filter_cons_of_pos hquoted, List.nodup_cons, List.forall_mem_cons]
          simp only [List.mem_cons, not_or]
          grind
        · have hother : ∀ other ∈ rest.filter isQuoted, other ≠ name := by
            intro other hmem heq
            rw [heq] at hmem
            exact hquoted (List.mem_filter.mp hmem).2
          rw [List.filter_cons_of_neg hquoted]
          simp only [List.mem_cons, not_or]
          grind
      · -- A name that is taken gets a number, and no quoted name can be the result.
        have hother : ∀ other ∈ rest.filter isQuoted, other ≠ freshName "_" taken name := by
          intro other hmem heq
          obtain ⟨hmem, hquoted⟩ := List.mem_filter.mp hmem
          obtain ⟨cs, hcs⟩ := (hrest other hmem).backticked hquoted
          exact numbered_ne_backticked name n cs (by rw [← hfresh, ← heq, hcs])
        have hresult : IsIdentifier refused (freshName "_" taken name) ↔
            IsIdentifier refused name ∧ isQuoted name = false := by
          rw [hfresh]
          exact isIdentifier_numbered_iff hname n
        rw [hresult]
        by_cases hquoted : isQuoted name = true
        · rw [List.filter_cons_of_pos hquoted, List.forall_mem_cons, hquoted]
          simp [htaken]
        · have hunquoted : isQuoted name = false := by simpa using hquoted
          rw [List.filter_cons_of_neg hquoted, hunquoted]
          simp only [List.mem_cons, not_or]
          grind

/-- Names are identifiers once they are unique exactly if they were before and no quoted one comes
twice. -/
theorem forall_isIdentifier_uniqueNames_iff {names : List String}
    (hspelled : ∀ name ∈ names, IsSpelled name) :
    (∀ result ∈ uniqueNames "_" names, IsIdentifier refused result) ↔
      (∀ name ∈ names, IsIdentifier refused name) ∧ (names.filter isQuoted).Nodup := by
  rw [uniqueNames, forall_isIdentifier_uniqueFrom_iff hspelled]
  simp

/-! ### How members are spelled -/

/-- How a property is spelled before it is made unique. -/
def propertySpelling (p : ModelProperty) : String := escapeIdentifier p.name.camel

/-- How a constant is spelled before it is made unique. -/
def constantSpelling (options : Options) (v : EnumValue) : String :=
  if options.useSpecEnumNames then escapeIdentifier v.wire else constantName v.name.screaming

/-- Capitals that do not start with a digit, or hold nothing but letters, digits and
underscores; underscores in front do not count. -/
def HasPlainDigits (screaming : String) : Prop :=
  (screaming.toList.dropWhile (· = '_')).head?.any Char.isDigit = true →
    (screaming.toList.dropWhile (· = '_')).all isIdentifierPart = true

theorem head?_value (s : String) : ("VALUE_" ++ s).toList.head? = some 'V' := by
  simp

/-- No keyword starts like what is put in front of a digit. -/
theorem value_not_mem_hardKeywords (s : String) : "VALUE_" ++ s ∉ hardKeywords := by
  have hkeywords : ∀ word ∈ hardKeywords, word.toList.head? ≠ some 'V' := by decide
  exact fun h => hkeywords _ h (head?_value s)

/-- The name of a constant is spelled like an identifier. -/
theorem isSpelled_constantName (screaming : String) : IsSpelled (constantName screaming) := by
  rw [constantName]
  by_cases hdigit : (screaming.toList.dropWhile (· = '_')).head?.any Char.isDigit = true
  · rw [if_pos hdigit]
    have hhead := head?_value (String.ofList (screaming.toList.dropWhile (· = '_')))
    refine ⟨fun h => ?_, value_not_mem_hardKeywords _, fun h => ?_⟩
    · rw [h] at hhead
      cases hhead
    · rw [isQuoted, hhead] at h
      cases h
  · rw [if_neg hdigit]
    exact isSpelled_escapeIdentifier _

/-- Escaping leaves no backtick inside. -/
theorem isIdentifier_of_escape (name : String) : IsIdentifier ['\x60'] (escapeIdentifier name) := by
  refine isIdentifier_escapeIdentifier (by decide) fun c _ hc => ?_
  rw [List.mem_singleton.mp hc]
  decide

/-- **Capitals.**  A constant is an identifier unless its capitals start with a digit, in
which case they are not escaped. -/
theorem isIdentifier_constantName_iff (screaming : String) :
    IsIdentifier ['\x60'] (constantName screaming) ↔ HasPlainDigits screaming := by
  rw [constantName, HasPlainDigits]
  generalize screaming.toList.dropWhile (· = '_') = trimmed
  by_cases hdigit : trimmed.head?.any Char.isDigit = true
  · have hchars : ("VALUE_" ++ String.ofList trimmed).toList =
        'V' :: (['A', 'L', 'U', 'E', '_'] ++ trimmed) := by simp
    have hplain : isPlainIdentifier ("VALUE_" ++ String.ofList trimmed).toList = true ↔
        trimmed.all isIdentifierPart = true := by
      have hstart : isIdentifierStart 'V' = true := by decide
      have hmiddle : ['A', 'L', 'U', 'E', '_'].all isIdentifierPart = true := by decide
      rw [hchars, isPlainIdentifier, hstart, List.all_append, hmiddle, Bool.true_and,
        Bool.true_and]
    simp only [hdigit, if_true, true_implies]
    constructor
    · intro h
      cases h with
      | plain h _ => exact hplain.mp h
      | quoted _ _ hs =>
          have hhead := congrArg String.toList hs
          rw [hchars, toList_backticked] at hhead
          cases (List.cons.inj hhead).1
    · intro h
      exact .plain (hplain.mpr h) (value_not_mem_hardKeywords _)
  · rw [if_neg hdigit]
    exact iff_of_true (isIdentifier_of_escape _) fun h => absurd h hdigit

/-- So is the spelling that the options ask for. -/
theorem isSpelled_constantSpelling (options : Options) (v : EnumValue) :
    IsSpelled (constantSpelling options v) := by
  rw [constantSpelling]
  by_cases hspec : options.useSpecEnumNames = true
  · rw [if_pos hspec]
    exact isSpelled_escapeIdentifier _
  · rw [if_neg hspec]
    exact isSpelled_constantName _

/-- It is an identifier unless digits stand in front of characters that none may have. -/
theorem isIdentifier_constantSpelling_iff (options : Options) (v : EnumValue) :
    IsIdentifier ['\x60'] (constantSpelling options v) ↔
      (options.useSpecEnumNames = false → HasPlainDigits v.name.screaming) := by
  rw [constantSpelling]
  by_cases hspec : options.useSpecEnumNames = true
  · simp only [hspec, if_true, Bool.true_eq_false, false_implies, iff_true]
    exact isIdentifier_of_escape _
  · have hnot : options.useSpecEnumNames = false := by simpa using hspec
    simp only [hnot, Bool.false_eq_true, if_false, true_implies]
    exact isIdentifier_constantName_iff _

/-! ### All members -/

/-- Where each value is written under its own name, these are the names. -/
theorem map_zipWith_name {α β : Type} {write : α → String → β} {nameOf : β → String}
    (hwrite : ∀ a name, nameOf (write a name) = name) (as : List α) (names : List String)
    (h : names.length = as.length) : (List.zipWith write as names).map nameOf = names := by
  induction as generalizing names with
  | nil => rw [List.zipWith_nil_left, List.map_nil, List.length_eq_zero_iff.mp h]
  | cons a rest ih =>
      cases names with
      | nil => cases h
      | cons name others =>
          rw [List.zipWith_cons_cons, List.map_cons, hwrite, ih others (Nat.succ.inj h)]

/-- The properties of a class have the names that were made for them. -/
theorem names_objectProperties (m : ObjectModel) :
    (objectProperties m).map (·.name) = uniqueNames "_" (m.properties.map propertySpelling) := by
  refine map_zipWith_name (fun _ _ => rfl) _ _ ?_
  rw [propertyNames, length_uniqueNames, List.length_map]

/-- The constants of an enum have the names that were made for them. -/
theorem names_enumConstants (options : Options) (m : EnumModel) :
    (enumConstants options m).map (·.name) =
      uniqueNames "_" (m.values.map (constantSpelling options)) := by
  refine map_zipWith_name (fun _ _ => rfl) _ _ ?_
  rw [constantNames, length_uniqueNames, List.length_map]

/-- The properties of a class are named by identifiers exactly if none that has to be
quoted is repeated. -/
theorem forall_isIdentifier_objectProperties_iff (m : ObjectModel) :
    (∀ p ∈ objectProperties m, IsIdentifier ['\x60'] p.name) ↔
      ((m.properties.map propertySpelling).filter isQuoted).Nodup := by
  have hspelled : ∀ name ∈ m.properties.map propertySpelling, IsSpelled name :=
    List.forall_mem_map.mpr fun _ _ => isSpelled_escapeIdentifier _
  have hspelling : ∀ name ∈ m.properties.map propertySpelling, IsIdentifier ['\x60'] name :=
    List.forall_mem_map.mpr fun _ _ => isIdentifier_of_escape _
  rw [← List.forall_mem_map (P := IsIdentifier ['\x60']), names_objectProperties,
    forall_isIdentifier_uniqueNames_iff hspelled]
  exact and_iff_right hspelling

/-- The constants of an enum are named by identifiers exactly if none that has to be quoted
is repeated and no capitals that start with a digit would have to be quoted. -/
theorem forall_isIdentifier_enumConstants_iff (options : Options) (m : EnumModel) :
    (∀ c ∈ enumConstants options m, IsIdentifier ['\x60'] c.name) ↔
      (options.useSpecEnumNames = false → ∀ v ∈ m.values, HasPlainDigits v.name.screaming) ∧
        ((m.values.map (constantSpelling options)).filter isQuoted).Nodup := by
  have hspelled : ∀ name ∈ m.values.map (constantSpelling options), IsSpelled name :=
    List.forall_mem_map.mpr fun v _ => isSpelled_constantSpelling options v
  have hspelling : (∀ name ∈ m.values.map (constantSpelling options),
      IsIdentifier ['\x60'] name) ↔
      (options.useSpecEnumNames = false → ∀ v ∈ m.values, HasPlainDigits v.name.screaming) := by
    rw [List.forall_mem_map]
    simp only [isIdentifier_constantSpelling_iff]
    exact ⟨fun h hown v hv => h v hv hown, fun h v hv hown => h hown v hv⟩
  rw [← List.forall_mem_map (P := IsIdentifier ['\x60']), names_enumConstants,
    forall_isIdentifier_uniqueNames_iff hspelled, hspelling]

/-- **The names of members.**  Those of one class or enum always differ from each other.
They are all identifiers exactly if no spelling that has to be quoted is repeated, and
in an enum that makes its own names also no capitals that start with a digit would have to
be quoted. -/
theorem memberNames_isIdentifier_iff (options : Options) (m : ObjectModel) (e : EnumModel) :
    (((objectProperties m).map (·.name)).Nodup ∧
      ((∀ p ∈ objectProperties m, IsIdentifier ['\x60'] p.name) ↔
        ((m.properties.map propertySpelling).filter isQuoted).Nodup)) ∧
    ((enumConstants options e).map (·.name)).Nodup ∧
      ((∀ c ∈ enumConstants options e, IsIdentifier ['\x60'] c.name) ↔
        (options.useSpecEnumNames = false → ∀ v ∈ e.values, HasPlainDigits v.name.screaming) ∧
          ((e.values.map (constantSpelling options)).filter isQuoted).Nodup) := by
  have hproperties : ((objectProperties m).map (·.name)).Nodup := by
    rw [names_objectProperties]
    exact nodup_uniqueNames _ _
  have hconstants : ((enumConstants options e).map (·.name)).Nodup := by
    rw [names_enumConstants]
    exact nodup_uniqueNames _ _
  exact ⟨⟨hproperties, forall_isIdentifier_objectProperties_iff m⟩, hconstants,
    forall_isIdentifier_enumConstants_iff options e⟩

/-- A class with a property for each of these keys. -/
def classWith (keys : List String) : ObjectModel :=
  { name := .ofText "Pet", description := none, deprecated := false
    properties := keys.map fun key => ⟨.ofText key, key, .primitive .any, false, none, false⟩ }

/-- An enum with a constant for each of these literals. -/
def enumWith (literals : List String) : EnumModel :=
  { name := .ofText "Pet", description := none, valueType := .string
    values := literals.map fun literal => ⟨literal, .ofText literal⟩ }

/-- Two keys of the same keyword, two literals of one that has to be quoted, and a literal
that starts with a digit and holds a character that has to be quoted. -/
theorem not_isIdentifier_of_keyword_twice :
    (¬∀ p ∈ objectProperties (classWith ["object", "Object"]), IsIdentifier ['\x60'] p.name) ∧
    (¬∀ c ∈ enumConstants { useSpecEnumNames := true } (enumWith ["a/b", "a:b"]),
      IsIdentifier ['\x60'] c.name) ∧
    ¬∀ c ∈ enumConstants {} (enumWith ["1½"]), IsIdentifier ['\x60'] c.name := by
  refine ⟨?_, ?_, ?_⟩
  · rw [forall_isIdentifier_objectProperties_iff]
    decide +kernel
  · rw [forall_isIdentifier_enumConstants_iff]
    exact fun h => absurd h.2 (by decide +kernel)
  · rw [forall_isIdentifier_enumConstants_iff]
    intro h
    have hdigits := h.1 rfl ⟨"1½", .ofText "1½"⟩ List.mem_cons_self
    exact absurd (hdigits (by decide +kernel)) (by decide +kernel)

end ClientGen.Kotlin
