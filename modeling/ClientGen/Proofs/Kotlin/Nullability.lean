import ClientGen.Kotlin.ApiFile
import ClientGen.Kotlin.ModelFile
import ClientGen.Proofs.Casings
import ClientGen.Proofs.Kotlin.ParameterNames

/-!
# How texts end

A type that admits null is written with a question mark at its end, and a parameter or
property that may be left out with a default of null.  What is in front of these endings
never looks like one of them: no type holds an equals sign, and only a nullable type ends
with a question mark.

* `typeText_endsIn_iff`, `parameterType_endsIn_iff`: types;
* `endsIn_default_iff`: lines with and without a default.
-/

namespace ClientGen.Kotlin

open Text (IsWordChar)

/-- A text has another one at its end. -/
def EndsIn (text ending : String) : Prop := ending.toList <:+ text.toList

instance (text ending : String) : Decidable (EndsIn text ending) :=
  inferInstanceAs (Decidable (_ <:+ _))

/-- A text ends in what is put behind it. -/
theorem endsIn_append (text ending : String) : EndsIn (text ++ ending) ending := by
  rw [EndsIn, String.toList_append]
  exact List.suffix_append _ _

/-- Endings of the same length are the same. -/
theorem not_endsIn_append {text ending other : String}
    (hlength : ending.toList.length = other.toList.length) (hne : ending.toList ≠ other.toList) :
    ¬ EndsIn (text ++ other) ending := by
  rintro ⟨front, hfront⟩
  rw [String.toList_append] at hfront
  exact hne (List.append_inj_right' hfront hlength)

/-- A text ends in nothing with a character that it has not. -/
theorem not_endsIn_of_not_mem {text ending : String} {c : Char} (hc : c ∈ ending.toList)
    (htext : c ∉ text.toList) : ¬ EndsIn text ending :=
  fun h => htext (h.subset hc)

/-! ### Types -/

/-- The characters of the name of a type. -/
theorem mem_typeName {key : String} {c : Char} (h : c ∈ (typeName key).toList) :
    IsWordChar c ∨ c = '\x60' := by
  have hword := Naming.isWord_pascal key
  rw [typeName] at h
  rcases escapeIdentifier_eq_or (Naming.pascal_ne_empty key)
    (fun c hc => not_forbidden_of_isWordChar (hword c hc)) with heq | heq
  · rw [heq] at h
    exact .inl (hword c h)
  · rw [heq, toList_backticked] at h
    rcases List.mem_cons.mp h with rfl | h
    · exact .inr rfl
    · exact (List.mem_append.mp h).imp (hword c) List.mem_singleton.mp

/-- The name of a type holds neither a question mark nor an equals sign. -/
theorem not_mem_typeName (key : String) :
    '?' ∉ (typeName key).toList ∧ '=' ∉ (typeName key).toList := by
  constructor <;> intro h <;> rcases mem_typeName h with hword | hquote
  · exact absurd hword (by unfold IsWordChar; decide)
  · cases hquote
  · exact absurd hword (by unfold IsWordChar; decide)
  · cases hquote

/-- **Types.**  A type is written with a question mark at its end exactly if it admits null. -/
theorem typeText_endsIn_iff (t : TypeDesc) : EndsIn (typeText t) "?" ↔ t.isNullable = true := by
  cases t with
  | primitive p => cases p <;> decide
  | model key =>
      have hnot : ¬ EndsIn (typeName key) "?" :=
        not_endsIn_of_not_mem (c := '?') (by decide) (not_mem_typeName key).1
      exact iff_of_false hnot (by simp [TypeDesc.isNullable])
  | enum key =>
      have hnot : ¬ EndsIn (typeName key) "?" :=
        not_endsIn_of_not_mem (c := '?') (by decide) (not_mem_typeName key).1
      exact iff_of_false hnot (by simp [TypeDesc.isNullable])
  | array t =>
      have hnot : ¬ EndsIn ("List<" ++ typeText t ++ ">") "?" :=
        not_endsIn_append rfl (by decide)
      exact iff_of_false hnot (by simp [TypeDesc.isNullable])
  | map t =>
      have hnot : ¬ EndsIn ("Map<String, " ++ typeText t ++ ">") "?" :=
        not_endsIn_append rfl (by decide)
      exact iff_of_false hnot (by simp [TypeDesc.isNullable])
  | nullable t => exact iff_of_true (endsIn_append _ _) rfl

/-- No type holds an equals sign. -/
theorem equals_not_mem_typeText (t : TypeDesc) : '=' ∉ (typeText t).toList := by
  induction t with
  | primitive p => cases p <;> decide
  | model key => exact (not_mem_typeName key).2
  | enum key => exact (not_mem_typeName key).2
  | array t ih => simp [typeText, ih]
  | map t ih => simp [typeText, ih]
  | nullable t ih => simp [typeText, ih]

/-- **Parameters.**  The type of a parameter, that of a file included, ends with a question
mark exactly if it admits null. -/
theorem parameterType_endsIn_iff (p : InterfaceParameter) :
    EndsIn (parameterType p) "?" ↔ p.type.isNullable = true := by
  rw [parameterType]
  by_cases hfile : isFilePart p = true
  · rw [if_pos hfile]
    by_cases hnull : p.type.isNullable = true
    · rw [if_pos hnull]
      exact iff_of_true (by decide) hnull
    · rw [if_neg hnull]
      exact iff_of_false (by decide) hnull
  · rw [if_neg hfile]
    exact typeText_endsIn_iff p.type

/-- The type of a parameter has no equals sign. -/
theorem equals_not_mem_parameterType (p : InterfaceParameter) :
    '=' ∉ (parameterType p).toList := by
  rw [parameterType]
  by_cases hfile : isFilePart p = true
  · rw [if_pos hfile]
    split <;> decide
  · rw [if_neg hfile]
    exact equals_not_mem_typeText p.type

/-! ### Lines -/

/-- **Defaults.**  What is written with a type, and with a default of null if it may be left
out, ends with that default only then. -/
theorem endsIn_default_iff (front : String) {type : String} (optional : Bool)
    (htype : '=' ∉ type.toList) :
    EndsIn (front ++ ": " ++ type ++ (if optional then " = null" else "")) " = null" ↔
      optional = true := by
  cases optional with
  | true => exact iff_of_true (endsIn_append _ _) rfl
  | false =>
      refine iff_of_false (fun h => ?_) Bool.false_ne_true
      have hline : " = null".toList <:+ front.toList ++ (": " ++ type).toList := by
        simpa [EndsIn, String.toList_append] using h
      -- Both the default and the type with its colon stand at the end, so one is part of the
      -- other; but the one has no colon and the other no equals sign.
      rcases List.suffix_or_suffix_of_suffix hline (List.suffix_append _ _) with hshort | hlong
      · have hequals : '=' ∈ (": " ++ type).toList := hshort.subset (by decide)
        simp [htype] at hequals
      · have hcolon : ':' ∈ " = null".toList := hlong.subset (by simp)
        exact absurd hcolon (by decide)

end ClientGen.Kotlin
