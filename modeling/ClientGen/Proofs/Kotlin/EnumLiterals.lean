import ClientGen.Kotlin.ModelFile
import ClientGen.Proofs.Kotlin.StringLiterals
import ClientGen.Proofs.Kotlin.WrittenNumbers
import ClientGen.Proofs.Model.Build
import ClientGen.Proofs.Unique
import Mathlib.Data.List.Zip
import Mathlib.Tactic.NormNum

/-!
# The literals of enum constants

The values of an enum are written as they stand in the document, with a mark of the type behind
them, and nothing is converted.  So a constant of a number type carries a literal of that type
if and only if what stands in the document is already a number in Kotlin's sense, in the range
of the type, and whole where the type asks for it: a number that is whole but written with a
point is no integer, and neither is a text or a word for infinity.  Where nothing numeric
stands there, the constant carries a string, whatever its type is.  An enum of booleans is in
the same position, and an enum of texts never is.

* `isLiteral_enumLiteral_iff`: one text as a literal of a type;
* `spellsValue_wire_iff`: one value of a document;
* `enumLiterals_conform_iff`: the constants of an enum.
-/

namespace ClientGen

namespace Kotlin

/-! ### Literals -/

/-- Less than this is nearest to a float that is finite. -/
def floatLimit : ℚ := 2 ^ 128 - 2 ^ 103

/-- The same for doubles. -/
def doubleLimit : ℚ := 2 ^ 1024 - 2 ^ 970

/-- An integer has 32 bits with its sign. -/
def IsInt (n : ℤ) : Prop := -2 ^ 31 ≤ n ∧ n < 2 ^ 31

/-- An integer has 64 bits with its sign. -/
def IsLong (n : ℤ) : Prop := -2 ^ 63 ≤ n ∧ n < 2 ^ 63

/-- A text spells a value of a type: a number in the range of the type, a boolean, or any text. -/
def SpellsValue : Primitive → List Char → Prop
  | .int, cs => ∃ n, SpellsInteger cs n ∧ IsInt n
  | .long, cs => ∃ n, SpellsInteger cs n ∧ IsLong n
  | .float, cs => ∃ q, SpellsNumber cs q ∧ |q| < floatLimit
  | .double, cs => ∃ q, SpellsNumber cs q ∧ |q| < doubleLimit
  | .boolean, cs => cs = "true".toList ∨ cs = "false".toList
  | _, _ => True

/-- A literal of a type: a value with the mark of the type behind it, and in a double a point
or an exponent; a string without templates where texts are meant. -/
def IsLiteral : Primitive → String → Prop
  | .int, literal => SpellsValue .int literal.toList
  | .long, literal => ∃ body, literal.toList = body ++ ['L'] ∧ SpellsValue .long body
  | .float, literal => ∃ body, literal.toList = body ++ ['f'] ∧ SpellsValue .float body
  | .double, literal => HasFraction literal.toList ∧ SpellsValue .double literal.toList
  | .boolean, literal => SpellsValue .boolean literal.toList
  | _, literal => ∃ value, ∀ opens, IsReadAs opens literal value ""

/-- The types of numbers. -/
def IsNumeric (t : Primitive) : Prop := t = .int ∨ t = .long ∨ t = .float ∨ t = .double

variable {t : Primitive} {cs : List Char}

/-- Each value of a type of numbers is a number. -/
theorem SpellsValue.spellsNumber (ht : IsNumeric t) (h : SpellsValue t cs) :
    ∃ q, SpellsNumber cs q := by
  rcases ht with rfl | rfl | rfl | rfl
  · obtain ⟨n, hn, _⟩ := h
    exact ⟨n, hn.spellsNumber⟩
  · obtain ⟨n, hn, _⟩ := h
    exact ⟨n, hn.spellsNumber⟩
  · obtain ⟨q, hq, _⟩ := h
    exact ⟨q, hq⟩
  · obtain ⟨q, hq, _⟩ := h
    exact ⟨q, hq⟩

/-- No number starts a string. -/
theorem SpellsNumber.append_ne_quote {q : ℚ} (h : SpellsNumber cs q) (mark rest : List Char) :
    cs ++ mark ≠ '"' :: rest := by
  intro heq
  cases cs with
  | nil => exact absurd h.isSpelling (by decide)
  | cons c cs =>
      have hc := h.isNumeralChar c List.mem_cons_self
      rw [(List.cons.inj heq).1] at hc
      exact absurd hc (by decide)

/-- A string is no literal of a number or a boolean. -/
theorem not_isLiteral_stringLiteral (ht : IsNumeric t ∨ t = .boolean) (value : String) :
    ¬IsLiteral t (stringLiteral value) := by
  have hrest := toList_stringLiteral value
  generalize (escapeString value ++ "\"").toList = rest at hrest
  have hno : ∀ {t : Primitive} {body mark : List Char}, IsNumeric t →
      '"' :: rest = body ++ mark → ¬SpellsValue t body := by
    intro t body mark ht heq hbody
    obtain ⟨q, hq⟩ := hbody.spellsNumber ht
    exact hq.append_ne_quote mark rest heq.symm
  intro h
  rcases ht with (rfl | rfl | rfl | rfl) | rfl
  · rw [IsLiteral, hrest] at h
    exact hno (.inl rfl) (List.append_nil _).symm h
  · obtain ⟨body, hbody, h⟩ := h
    exact hno (.inr (.inl rfl)) (hrest ▸ hbody) h
  · obtain ⟨body, hbody, h⟩ := h
    exact hno (.inr (.inr (.inl rfl))) (hrest ▸ hbody) h
  · rw [IsLiteral, hrest] at h
    exact hno (.inr (.inr (.inr rfl))) (List.append_nil _).symm h.2
  · rw [IsLiteral, hrest] at h
    rcases h with h | h <;> cases h

/-! ### One text -/

variable {wire : String}

/-- The test for a point or an exponent finds either. -/
theorem hasFraction_iff : hasFraction cs = true ↔ HasFraction cs := by
  simp [hasFraction, HasFraction, or_assoc]

/-- The text behind which a mark stands can be read off. -/
theorem exists_body_iff {literal : String} {mark : Char} (h : literal.toList = cs ++ [mark]) :
    (∃ body, literal.toList = body ++ [mark] ∧ SpellsValue t body) ↔ SpellsValue t cs := by
  rw [h]
  constructor
  · rintro ⟨body, hbody, hspells⟩
    rwa [List.append_cancel_right hbody]
  · exact fun hspells => ⟨cs, rfl, hspells⟩

/-- A spelling is a double exactly if it is a number in the range of doubles. -/
theorem isLiteral_double_iff (h : Decimal.isSpelling wire.toList = true) :
    IsLiteral .double (enumLiteral wire .double) ↔ SpellsValue .double wire.toList := by
  by_cases hfraction : HasFraction wire.toList
  · have hliteral : enumLiteral wire .double = wire :=
      (if_pos h).trans (if_pos (hasFraction_iff.mpr hfraction))
    rw [hliteral]
    exact and_iff_right hfraction
  · have hliteral : enumLiteral wire .double = wire ++ ".0" :=
      (if_pos h).trans (if_neg fun hmark => hfraction (hasFraction_iff.mp hmark))
    have htext : (wire ++ ".0").toList = wire.toList ++ ['.', '0'] := String.toList_append
    have hpoint : HasFraction (wire.toList ++ ['.', '0']) :=
      ⟨'.', List.mem_append_right _ List.mem_cons_self, .inl rfl⟩
    rw [hliteral, IsLiteral, htext, and_iff_right hpoint]
    simp only [SpellsValue, spellsNumber_append_zero_iff h hfraction]

/-- A text that is a number in the documents' sense as a literal of a type of numbers. -/
theorem isLiteral_enumLiteral_of_isSpelling (ht : IsNumeric t)
    (h : Decimal.isSpelling wire.toList = true) :
    IsLiteral t (enumLiteral wire t) ↔ SpellsValue t wire.toList := by
  rcases ht with rfl | rfl | rfl | rfl
  · have hliteral : enumLiteral wire .int = wire := if_pos h
    rw [hliteral]
    rfl
  · have hliteral : enumLiteral wire .long = wire ++ "L" := if_pos h
    rw [hliteral]
    exact exists_body_iff String.toList_append
  · have hliteral : enumLiteral wire .float = wire ++ "f" := if_pos h
    rw [hliteral]
    exact exists_body_iff String.toList_append
  · exact isLiteral_double_iff h

/-- Any other text is written as a string, but for the words of booleans. -/
theorem enumLiteral_of_not_isSpelling (h : Decimal.isSpelling wire.toList = false)
    (hword : ¬(t = .boolean ∧ (wire = "true" ∨ wire = "false"))) :
    enumLiteral wire t = stringLiteral wire := by
  have hno : ¬Decimal.isSpelling wire.toList = true := by rw [h]; exact Bool.false_ne_true
  unfold enumLiteral
  rw [if_neg hno, if_neg hword]

/-- So it makes no literal of a type of numbers, and it is no value of such a type. -/
theorem isLiteral_enumLiteral_of_not_isSpelling (ht : IsNumeric t)
    (h : Decimal.isSpelling wire.toList = false) :
    IsLiteral t (enumLiteral wire t) ↔ SpellsValue t wire.toList := by
  have hboolean : t ≠ .boolean := by
    rcases ht with rfl | rfl | rfl | rfl <;> decide
  rw [enumLiteral_of_not_isSpelling h fun hword => hboolean hword.1]
  refine iff_of_false (not_isLiteral_stringLiteral (.inl ht) wire) fun hvalue => ?_
  obtain ⟨q, hq⟩ := hvalue.spellsNumber ht
  rw [hq.isSpelling] at h
  cases h

/-- A boolean is spelled in two ways. -/
theorem spellsValue_boolean_iff {wire : String} :
    SpellsValue .boolean wire.toList ↔ wire = "true" ∨ wire = "false" := by
  rw [SpellsValue, String.toList_inj, String.toList_inj]

/-- A constant of booleans is a literal exactly if its text spells one. -/
theorem isLiteral_boolean_iff (wire : String) :
    IsLiteral .boolean (enumLiteral wire .boolean) ↔ SpellsValue .boolean wire.toList := by
  by_cases hwire : wire = "true" ∨ wire = "false"
  · have hliteral : enumLiteral wire .boolean = wire := by
      rcases hwire with rfl | rfl <;> decide +kernel
    rw [hliteral]
    rfl
  · have hliteral : enumLiteral wire .boolean = stringLiteral wire := by
      cases h : Decimal.isSpelling wire.toList with
      | true => exact if_pos h
      | false => exact enumLiteral_of_not_isSpelling h fun hword => hwire hword.2
    rw [hliteral, spellsValue_boolean_iff]
    exact iff_of_false (not_isLiteral_stringLiteral (.inr rfl) wire) hwire

/-- **One text.**  What is written for it is a literal of the type exactly if it spells a value
of the type. -/
theorem isLiteral_enumLiteral_iff (t : Primitive) (wire : String) :
    IsLiteral (enumValueType t) (enumLiteral wire (enumValueType t)) ↔
      SpellsValue t wire.toList := by
  have hnumeric : ∀ {t}, IsNumeric t →
      (IsLiteral t (enumLiteral wire t) ↔ SpellsValue t wire.toList) := by
    intro t ht
    cases h : Decimal.isSpelling wire.toList with
    | true => exact isLiteral_enumLiteral_of_isSpelling ht h
    | false => exact isLiteral_enumLiteral_of_not_isSpelling ht h
  have htext : IsLiteral .string (enumLiteral wire .string) := by
    have hliteral : enumLiteral wire .string = stringLiteral wire := by
      cases h : Decimal.isSpelling wire.toList with
      | true => exact if_pos h
      | false => exact enumLiteral_of_not_isSpelling h (by simp)
    rw [hliteral]
    refine ⟨wire, fun opens => ?_⟩
    have hread := @isReadAs_stringLiteral opens wire ""
    rwa [String.append_empty] at hread
  cases t with
  | int => exact hnumeric (.inl rfl)
  | long => exact hnumeric (.inr (.inl rfl))
  | float => exact hnumeric (.inr (.inr (.inl rfl)))
  | double => exact hnumeric (.inr (.inr (.inr rfl)))
  | boolean => exact isLiteral_boolean_iff wire
  | _ => exact iff_of_true htext trivial

end Kotlin

/-! ### One value of a document -/

open Kotlin

/-- A value of a document is an integer, or a text that spells one. -/
inductive Literal.StandsForInteger : Literal → ℤ → Prop
  | integer (n : ℤ) : StandsForInteger (.integer n) n
  | text {s : String} {n : ℤ} (h : SpellsInteger s.toList n) : StandsForInteger (.text s) n

/-- A value of a document is a number, or a text that spells one. -/
inductive Literal.StandsForNumber : Literal → ℚ → Prop
  | integer (n : ℤ) : StandsForNumber (.integer n) n
  | real (x : Decimal) : StandsForNumber (.real x) x.value
  | text {s : String} {q : ℚ} (h : SpellsNumber s.toList q) : StandsForNumber (.text s) q

/-- A value of a document is one of a type. -/
def Literal.Fits : Literal → Primitive → Prop
  | l, .int => ∃ n, l.StandsForInteger n ∧ IsInt n
  | l, .long => ∃ n, l.StandsForInteger n ∧ IsLong n
  | l, .float => ∃ q, l.StandsForNumber q ∧ |q| < floatLimit
  | l, .double => ∃ q, l.StandsForNumber q ∧ |q| < doubleLimit
  | l, .boolean => (∃ b, l = .bool b) ∨ l = .text "true" ∨ l = .text "false"
  | _, _ => True

namespace Literal

variable {l : Literal}

/-- Lists and records are written between brackets. -/
theorem wire_list (items : List Literal) : ∃ rest, (list items).wire.toList = '[' :: rest := by
  have hwire : (list items).wire = "[" ++ ",".intercalate (writeItems items) ++ "]" := rfl
  rw [hwire, String.toList_append, String.toList_append]
  exact ⟨_, rfl⟩

/-- A record is written between braces. -/
theorem wire_record (members : List (String × Literal)) :
    ∃ rest, (record members).wire.toList = '\x7b' :: rest := by
  have hwire : (record members).wire =
      "\x7b" ++ ",".intercalate (writeMembers members) ++ "\x7d" := rfl
  rw [hwire, String.toList_append, String.toList_append]
  exact ⟨_, rfl⟩

/-- What is written for other values than numbers and texts is no number. -/
theorem not_spellsNumber_wire (hinteger : ∀ n, l ≠ .integer n) (hreal : ∀ x, l ≠ .real x)
    (htext : ∀ s, l ≠ .text s) (q : ℚ) : ¬SpellsNumber l.wire.toList q := by
  have hletter : ∃ c ∈ l.wire.toList, isNumeralChar c = false := by
    cases l with
    | null => exact ⟨'n', by decide, rfl⟩
    | bool b =>
        cases b with
        | true => exact ⟨'t', by decide, rfl⟩
        | false => exact ⟨'f', by decide, rfl⟩
    | integer n => exact absurd rfl (hinteger n)
    | real x => exact absurd rfl (hreal x)
    | text s => exact absurd rfl (htext s)
    | list items =>
        obtain ⟨rest, hrest⟩ := wire_list items
        exact ⟨'[', hrest ▸ List.mem_cons_self, rfl⟩
    | record members =>
        obtain ⟨rest, hrest⟩ := wire_record members
        exact ⟨'\x7b', hrest ▸ List.mem_cons_self, rfl⟩
  obtain ⟨c, hc, hletter⟩ := hletter
  intro h
  rw [h.isNumeralChar c hc] at hletter
  cases hletter

/-- The text of a literal spells an integer exactly if the literal stands for it. -/
theorem spellsInteger_wire_iff {n : ℤ} :
    SpellsInteger l.wire.toList n ↔ l.StandsForInteger n := by
  constructor
  · intro h
    cases l with
    | integer m =>
        rw [h.unique (.repr m)]
        exact .integer m
    | real x => exact absurd h (x.not_spellsInteger_text n)
    | text s => exact .text h
    | null | bool | list | record =>
        exact absurd h.spellsNumber
          (not_spellsNumber_wire (by simp) (by simp) (by simp) n)
  · intro h
    cases h with
    | integer => exact .repr n
    | text h => exact h

/-- The text of a literal spells a number exactly if the literal stands for it. -/
theorem spellsNumber_wire_iff {q : ℚ} :
    SpellsNumber l.wire.toList q ↔ l.StandsForNumber q := by
  constructor
  · intro h
    cases l with
    | integer m =>
        rw [h.unique (SpellsInteger.repr m).spellsNumber]
        exact .integer m
    | real x =>
        rw [h.unique x.spellsNumber_text]
        exact .real x
    | text s => exact .text h
    | null | bool | list | record =>
        exact absurd h (not_spellsNumber_wire (by simp) (by simp) (by simp) q)
  · intro h
    cases h with
    | integer n => exact (SpellsInteger.repr n).spellsNumber
    | real x => exact x.spellsNumber_text
    | text h => exact h

/-- A boolean is written for booleans and for texts that are one. -/
theorem spellsBoolean_wire_iff : SpellsValue .boolean l.wire.toList ↔ l.Fits .boolean := by
  -- Neither word is a number, and neither starts like a list or a record.
  have hnumber : ∀ q, SpellsNumber l.wire.toList q → ¬(l.wire = "true" ∨ l.wire = "false") := by
    intro q hq hword
    have hspelling := hq.isSpelling
    rcases hword with hword | hword <;>
      exact absurd (hword ▸ hspelling) (by decide)
  rw [spellsValue_boolean_iff]
  cases l with
  | null => exact iff_of_false (by decide) (by simp [Fits])
  | bool b => exact iff_of_true (by cases b <;> decide) (.inl ⟨b, rfl⟩)
  | integer n =>
      exact iff_of_false (hnumber n (SpellsInteger.repr n).spellsNumber) (by simp [Fits])
  | real x => exact iff_of_false (hnumber _ x.spellsNumber_text) (by simp [Fits])
  | text s => simp [Fits, wire]
  | list items =>
      obtain ⟨rest, hrest⟩ := wire_list items
      refine iff_of_false ?_ (by simp [Fits])
      rintro (hword | hword) <;> rw [hword] at hrest <;> cases hrest
  | record members =>
      obtain ⟨rest, hrest⟩ := wire_record members
      refine iff_of_false ?_ (by simp [Fits])
      rintro (hword | hword) <;> rw [hword] at hrest <;> cases hrest

/-- **One value of a document** is written as a value of the type exactly if it is one. -/
theorem spellsValue_wire_iff {t : Primitive} : SpellsValue t l.wire.toList ↔ l.Fits t := by
  cases t with
  | boolean => exact spellsBoolean_wire_iff
  | int => simp only [SpellsValue, Fits, spellsInteger_wire_iff]
  | long => simp only [SpellsValue, Fits, spellsInteger_wire_iff]
  | float => simp only [SpellsValue, Fits, spellsNumber_wire_iff]
  | double => simp only [SpellsValue, Fits, spellsNumber_wire_iff]
  | _ => exact Iff.rfl

end Literal

/-! ### Enums -/

namespace Kotlin

/-- The constants of an enum carry the literals of its values, in their order. -/
theorem literals_enumConstants (options : Options) (m : EnumModel) :
    (enumConstants options m).map (·.literal) =
      m.values.map fun v => enumLiteral v.wire (enumValueType m.valueType) := by
  have hlength : m.values.length ≤ (constantNames options m).length := by
    rw [constantNames, length_uniqueNames, List.length_map]
  calc (enumConstants options m).map (·.literal)
      = (m.values.zip (constantNames options m)).map
          fun p => enumLiteral p.1.wire (enumValueType m.valueType) := by
        rw [enumConstants, List.map_zipWith, List.map_zip_eq_zipWith]
        rfl
    _ = ((m.values.zip (constantNames options m)).map Prod.fst).map
          fun v => enumLiteral v.wire (enumValueType m.valueType) := by
        rw [List.map_map]
        rfl
    _ = m.values.map fun v => enumLiteral v.wire (enumValueType m.valueType) := by
        rw [List.map_fst_zip hlength]

/-- A value of a schema makes a literal of the type exactly if it fits the declared type, which
may be another one if both are written as texts. -/
theorem isLiteral_wire_iff (key : String) (schema : Schema) (l : Literal) :
    IsLiteral (enumValueType (enumModel key schema).valueType)
        (enumLiteral l.wire (enumValueType (enumModel key schema).valueType)) ↔
      l.Fits schema.literalPrimitive := by
  rw [isLiteral_enumLiteral_iff, Literal.spellsValue_wire_iff, enumModel]
  cases schema.literalPrimitive <;> rfl

/-- **Enums.**  The constants of the enum of a schema all carry literals of the type that the
file gives them exactly if all values in the schema besides null are of its declared type. -/
theorem enumLiterals_conform_iff (options : Options) {schemas : Schemas} {key : String}
    {s : OrRef Schema} {m : EnumModel} (h : schemas.buildModel key s = .ok (.enumeration m)) :
    ∃ schema, s = .inline schema ∧
      ((∀ c ∈ enumConstants options m, IsLiteral (enumValueType m.valueType) c.literal) ↔
        ∀ l ∈ schema.literals, l.isNull = false → l.Fits schema.literalPrimitive) := by
  cases Schemas.builds_of_buildModel h with
  | @enumeration schema hshape =>
      refine ⟨schema, rfl, ?_⟩
      have hvalues : (enumModel key schema).values =
          (schema.literals.filter fun l => !l.isNull).map fun l => .ofWire l.wire := rfl
      rw [← List.forall_mem_map (P := IsLiteral (enumValueType (enumModel key schema).valueType)),
        literals_enumConstants, List.forall_mem_map, hvalues, List.forall_mem_map]
      simp only [List.mem_filter, Bool.not_eq_true', and_imp]
      exact forall₂_congr fun l _ => imp_congr_right fun _ => isLiteral_wire_iff key schema l

/-- Numbers of both kinds, and null. -/
def factors : Schema :=
  { type := some (.single .number), format := some "float"
    literals := [.integer 2, .null, .real ⟨true, 15, -1⟩] }

/-- An integer and a decimal as floats. -/
theorem isLiteral_factors :
    Schemas.buildModel [] "Factor" (.inline factors) =
        .ok (.enumeration (enumModel "Factor" factors)) ∧
      ∀ c ∈ enumConstants {} (enumModel "Factor" factors), IsLiteral .float c.literal := by
  have hbuilt : Schemas.buildModel [] "Factor" (.inline factors) =
      .ok (.enumeration (enumModel "Factor" factors)) := rfl
  refine ⟨hbuilt, ?_⟩
  obtain ⟨schema, hschema, hiff⟩ := enumLiterals_conform_iff {} hbuilt
  obtain rfl := OrRef.inline.inj hschema
  have hinteger : (Literal.integer 2).Fits .float :=
    ⟨_, .integer 2, by norm_num [floatLimit]⟩
  have hreal : (Literal.real ⟨true, 15, -1⟩).Fits .float :=
    ⟨_, .real _, by norm_num [floatLimit, Decimal.value, abs_lt]⟩
  refine hiff.mpr fun l hl hnull => ?_
  rcases List.mem_cons.mp hl with rfl | hl
  · exact hinteger
  rcases List.mem_cons.mp hl with rfl | hl
  · cases hnull
  rcases List.mem_singleton.mp hl with rfl
  exact hreal

/-- A schema of one type that enumerates one value. -/
def enumOfOne (type : SchemaType) (l : Literal) : Schema :=
  { type := some (.single type), literals := [l] }

/-- The constant of such an enum carries this, which is no literal of the enum's type. -/
def Misfits (type : SchemaType) (l : Literal) (t : Primitive) (literal : String) : Prop :=
  ∃ m, Schemas.buildModel [] "Size" (.inline (enumOfOne type l)) = .ok (.enumeration m) ∧
    enumValueType m.valueType = t ∧ (enumConstants {} m).map (·.literal) = [literal] ∧
    ¬IsLiteral t literal

/-- An integer with a point, an integer that needs more bits, a text as an integer, a word as
a double and a number as a boolean. -/
theorem not_isLiteral_of_misfits :
    Misfits .integer (.real ⟨false, 1, 0⟩) .int "1.0" ∧
    Misfits .integer (.integer 10000000000) .int "10000000000" ∧
    Misfits .integer (.text "large") .int "\"large\"" ∧
    Misfits .number (.text "nan") .double "nan.0" ∧
    Misfits .boolean (.integer 1) .boolean "\"1\"" := by
  have hpoint : ¬IsLiteral .int "1.0" := by
    rintro ⟨n, hn, _⟩
    exact hn.not_hasFraction ⟨'.', by decide, .inl rfl⟩
  have hlarge : ¬IsLiteral .int "10000000000" := by
    rintro ⟨n, hn, _, hlt⟩
    rw [hn.unique (.repr 10000000000)] at hlt
    exact absurd hlt (by decide)
  have htext : ¬IsLiteral .int "\"large\"" := by
    rintro ⟨n, hn, _⟩
    exact absurd (hn.spellsNumber.isNumeralChar 'l' (by decide)) (by decide)
  have hword : ¬IsLiteral .double "nan.0" := by
    rintro ⟨_, q, hq, _⟩
    exact absurd (hq.isNumeralChar 'n' (by decide)) (by decide)
  have hnumber : ¬IsLiteral .boolean "\"1\"" := by
    rintro (h | h) <;> cases h
  exact ⟨⟨_, rfl, rfl, by decide +kernel, hpoint⟩, ⟨_, rfl, rfl, by decide +kernel, hlarge⟩,
    ⟨_, rfl, rfl, by decide +kernel, htext⟩, ⟨_, rfl, rfl, by decide +kernel, hword⟩,
    ⟨_, rfl, rfl, by decide +kernel, hnumber⟩⟩

end Kotlin

end ClientGen
