import ClientGen.Proofs.Analysis.NeverDoubled
import ClientGen.Proofs.Kotlin.Forwarding
import ClientGen.Proofs.Kotlin.Nullability
import ClientGen.Proofs.Model.Composition
import Mathlib.Data.List.Chain

/-!
# Question marks side by side

A nullable type is written as the type inside it and a question mark.  Two of these marks can
stand side by side only if the type inside ends with one already: nothing else that is written
around a type, and no name of one, has a mark in it.  So the text of a type doubles a mark
exactly if the type is somewhere nullable twice, which no type of an analysis is.

* `doublesMark_append_iff`: where marks come together;
* `doublesMark_typeText_iff`: the text of a type;
* `not_doublesMark_of_mem_types`, `not_doublesMark_of_mem_typeTexts`: what is written for an
  operation and for a model;
* `null_never_doubled`: a whole document.
-/

namespace ClientGen.Kotlin

/-- Two question marks stand side by side in a text. -/
def DoublesMark (text : String) : Prop := ['?', '?'] <:+: text.toList

instance (text : String) : Decidable (DoublesMark text) := inferInstanceAs (Decidable (_ <:+: _))

variable {front inner back text : String}

/-! ### Texts -/

/-- No mark is doubled exactly if no two neighbours are both marks. -/
theorem not_doublesMark_iff :
    ¬DoublesMark text ↔ text.toList.IsChain fun a b => ¬(a = '?' ∧ b = '?') := by
  rw [List.isChain_iff_forall_rel_of_append_cons_cons]
  constructor
  · intro h a b before behind heq hmarks
    obtain ⟨rfl, rfl⟩ := hmarks
    exact h ⟨before, behind, by simp [heq]⟩
  · intro h hdouble
    obtain ⟨before, behind, heq⟩ := hdouble
    have hneighbours : text.toList = before ++ '?' :: '?' :: behind := by simp [← heq]
    exact h hneighbours ⟨rfl, rfl⟩

/-- **Seams.**  Marks that come together where two texts meet, or are together in one. -/
theorem doublesMark_append_iff :
    DoublesMark (front ++ back) ↔ DoublesMark front ∨ DoublesMark back ∨
      (front.toList.getLast? = some '?' ∧ back.toList.head? = some '?') := by
  rw [← not_iff_not, not_or, not_or, not_doublesMark_iff, not_doublesMark_iff,
    not_doublesMark_iff, String.toList_append, List.isChain_append]
  refine and_congr_right fun _ => and_congr_right fun _ => ?_
  constructor
  · intro h hmarks
    exact h '?' hmarks.1 '?' hmarks.2 ⟨rfl, rfl⟩
  · intro h a ha b hb hmarks
    obtain ⟨rfl, rfl⟩ := hmarks
    exact h ⟨ha, hb⟩

theorem not_doublesMark_of_not_mem (h : '?' ∉ text.toList) : ¬DoublesMark text :=
  fun hdouble => h (hdouble.subset (by decide))

/-- Texts without marks around another one make no difference. -/
theorem doublesMark_between_iff (hfront : '?' ∉ front.toList) (hback : '?' ∉ back.toList) :
    DoublesMark (front ++ inner ++ back) ↔ DoublesMark inner := by
  have hfirst : front.toList.getLast? ≠ some '?' := fun h => hfront (List.mem_of_getLast? h)
  have hlast : back.toList.head? ≠ some '?' := fun h => hback (List.mem_of_head? h)
  rw [doublesMark_append_iff, doublesMark_append_iff]
  simp [hfirst, hlast, not_doublesMark_of_not_mem hfront, not_doublesMark_of_not_mem hback]

/-- A mark behind a text is doubled if the text ends with one. -/
theorem doublesMark_mark_iff : DoublesMark (text ++ "?") ↔ DoublesMark text ∨ EndsIn text "?" := by
  have hmark : ¬DoublesMark "?" := by decide
  have hends : EndsIn text "?" ↔ text.toList.getLast? = some '?' := by
    rw [EndsIn, List.getLast?_eq_some_iff]
    constructor
    · intro h
      obtain ⟨before, heq⟩ := h
      exact ⟨before, heq.symm⟩
    · intro h
      obtain ⟨before, heq⟩ := h
      exact ⟨before, heq.symm⟩
  rw [doublesMark_append_iff, hends]
  simp [hmark]

/-! ### Types -/

/-- **Types.**  The text of a type doubles a mark exactly if the type doubles null. -/
theorem doublesMark_typeText_iff (t : TypeDesc) : DoublesMark (typeText t) ↔ ¬t.NeverDoubled := by
  induction t with
  | primitive p =>
      have hplain : ¬DoublesMark (primitiveText p) := by cases p <;> decide
      exact iff_of_false hplain (not_not_intro trivial)
  | model key =>
      have hplain : ¬DoublesMark (typeName key) :=
        not_doublesMark_of_not_mem (not_mem_typeName key).1
      exact iff_of_false hplain (not_not_intro trivial)
  | enum key =>
      have hplain : ¬DoublesMark (typeName key) :=
        not_doublesMark_of_not_mem (not_mem_typeName key).1
      exact iff_of_false hplain (not_not_intro trivial)
  | array t ih =>
      rw [typeText, doublesMark_between_iff (by decide) (by decide), ih, TypeDesc.NeverDoubled]
  | map t ih =>
      rw [typeText, doublesMark_between_iff (by decide) (by decide), ih, TypeDesc.NeverDoubled]
  | nullable t ih =>
      rw [typeText, doublesMark_mark_iff, ih, typeText_endsIn_iff, TypeDesc.NeverDoubled]
      cases t.isNullable <;> simp

/-- A type that is nowhere nullable twice has no two marks side by side. -/
theorem not_doublesMark_typeText {t : TypeDesc} (h : t.NeverDoubled) :
    ¬DoublesMark (typeText t) :=
  fun hdouble => (doublesMark_typeText_iff t).mp hdouble h

/-! ### Operations -/

/-- The types in the two functions of an operation as they are written. -/
def FunctionText.types (f : FunctionText) : List String :=
  f.interfaceParameters.map (·.type) ++ f.callerParameters.map (·.type) ++ [f.returnType]

/-- A parameter has the text of its type, or that of a file. -/
theorem not_doublesMark_parameterType {p : InterfaceParameter} (h : p.type.NeverDoubled) :
    ¬DoublesMark (parameterType p) := by
  rw [parameterType]
  split
  · split <;> decide
  · exact not_doublesMark_typeText h

/-- The envelope of a response has no marks of its own. -/
theorem not_doublesMark_enveloped (style : CallStyle) {returns : Returns}
    (h : ∀ t, returns.type? = some t → t.NeverDoubled) :
    ¬DoublesMark (enveloped style (resultType returns)) := by
  have hresult : ¬DoublesMark (resultType returns) := by
    cases returns with
    | json t => exact not_doublesMark_typeText (h t rfl)
    | binary => decide
    | empty => decide
  cases style with
  | coroutines =>
      rw [enveloped, doublesMark_between_iff (by decide) (by decide)]
      exact hresult
  | observable =>
      rw [enveloped, doublesMark_between_iff (by decide) (by decide)]
      exact hresult

/-- **Operations.**  Where no type is nullable twice, none is written with a doubled mark. -/
theorem not_doublesMark_of_mem_types (options : Options) {op : AnalyzedOperation}
    (h : ∀ t ∈ op.types, t.NeverDoubled) (htext : text ∈ (functionText options op).types) :
    ¬DoublesMark text := by
  have hparameter : ∀ p ∈ op.parameters, p.interface.type.NeverDoubled := fun p hp =>
    h _ (List.mem_append_left _ (List.mem_flatMap.mpr ⟨p, hp, List.mem_cons_self⟩))
  rcases List.mem_append.mp htext with hparameters | hreturn
  · rcases List.mem_append.mp hparameters with hinterface | hcaller
    · obtain ⟨written, hwritten, rfl⟩ := List.mem_map.mp hinterface
      obtain ⟨i, hi, rfl⟩ := List.mem_map.mp hwritten
      obtain ⟨p, hp, rfl⟩ := List.mem_map.mp ((interfaceParameters_perm op).mem_iff.mp hi)
      exact not_doublesMark_parameterType (hparameter p hp)
    · obtain ⟨written, hwritten, rfl⟩ := List.mem_map.mp hcaller
      obtain ⟨p, hp, rfl⟩ := List.mem_map.mp hwritten
      exact not_doublesMark_parameterType (hparameter p hp)
  · rw [List.mem_singleton.mp hreturn]
    refine not_doublesMark_enveloped _ fun t ht => ?_
    exact h t (List.mem_append_right _ (Option.mem_toList.mpr ht))

/-! ### Models -/

/-- The types in the declaration of a model as they are written. -/
def modelTypeTexts : Model → List String
  | .object m => (objectProperties m).map (·.type)
  | .enumeration m => [primitiveText (enumValueType m.valueType)]
  | .typeAlias m => [typeText m.target]

/-- The properties of a class are written with the texts of their types. -/
theorem types_objectProperties (m : ObjectModel) :
    (objectProperties m).map (·.type) = m.properties.map fun p => typeText p.type := by
  apply List.ext_getElem
  · simp [objectProperties, propertyNames, length_uniqueNames]
  · intro i _ _
    simp [objectProperties, propertyText]

/-- **Models.**  The same for what is written for a model. -/
theorem not_doublesMark_of_mem_modelTypeTexts {m : Model} (h : ∀ t ∈ m.types, t.NeverDoubled)
    (htext : text ∈ modelTypeTexts m) : ¬DoublesMark text := by
  cases m with
  | object m =>
      rw [modelTypeTexts, types_objectProperties] at htext
      obtain ⟨p, hp, rfl⟩ := List.mem_map.mp htext
      exact not_doublesMark_typeText (h _ (List.mem_map_of_mem hp))
  | enumeration m =>
      rw [List.mem_singleton.mp htext]
      exact not_doublesMark_typeText (t := .primitive _) trivial
  | typeAlias m =>
      rw [List.mem_singleton.mp htext]
      exact not_doublesMark_typeText (h _ (List.mem_singleton_self _))

/-! ### Documents -/

/-- The types of the functions of all operations as they are written. -/
def writtenSignatures (options : Options) (r : Analysis) : List String :=
  r.apis.flatMap fun api => api.operations.flatMap fun op => (functionText options op).types

/-- Every type that is written for an analysis. -/
def writtenTypes (options : Options) (r : Analysis) : List String :=
  writtenSignatures options r ++ r.models.flatMap modelTypeTexts

/-- Where no type of an analysis is nullable twice, none is written with a doubled mark. -/
theorem not_doublesMark_of_mem_writtenTypes (options : Options) {r : Analysis}
    (h : ∀ t ∈ r.types, t.NeverDoubled) (htext : text ∈ writtenTypes options r) :
    ¬DoublesMark text := by
  rcases List.mem_append.mp htext with hsignature | hmodel
  · obtain ⟨api, hapi, htext⟩ := List.mem_flatMap.mp hsignature
    obtain ⟨op, hop, htext⟩ := List.mem_flatMap.mp htext
    refine not_doublesMark_of_mem_types options (fun t ht => ?_) htext
    have hgroup : t ∈ api.operations.flatMap (·.types) := List.mem_flatMap.mpr ⟨op, hop, ht⟩
    exact h t (List.mem_append_left _ (List.mem_flatMap.mpr ⟨api, hapi, hgroup⟩))
  · obtain ⟨m, hm, htext⟩ := List.mem_flatMap.mp hmodel
    refine not_doublesMark_of_mem_modelTypeTexts (fun t ht => ?_) htext
    exact h t (List.mem_append_right _ (List.mem_flatMap.mpr ⟨m, hm, ht⟩))

/-- **Null is never doubled.**  The text of a type has two question marks side by side exactly
if the type is somewhere nullable twice.  No schema, declared in the document or not, has such
a type, though one that allows null has a type that does, and no parameter, response, property
or other name in an analysis of the document has one.  So none of the types that are written
for it has two marks side by side. -/
theorem null_never_doubled (d : Document) :
    (∀ t, DoublesMark (typeText t) ↔ ¬t.NeverDoubled) ∧
      (∀ s t, Schemas.typeOf d.schemas s = .ok t →
        t.NeverDoubled ∧ (s.isNullable = true → t.isNullable = true)) ∧
      ∀ allow failFast r,
        ((Analyzer.ofDocument d allow).value.analyze failFast).value = .ok r →
          (∀ t ∈ r.types, t.NeverDoubled) ∧
            ∀ options, ∀ text ∈ writtenTypes options r, ¬DoublesMark text := by
  refine ⟨doublesMark_typeText_iff, fun s t ht => ?_, fun allow failFast r hr => ?_⟩
  · exact ⟨Schemas.neverDoubled_typeOf ht, Schemas.isNullable_of_typeOf ht⟩
  · have htypes : ∀ t ∈ r.types, t.NeverDoubled :=
      fun _ ht => Analyzer.neverDoubled_of_mem_types hr ht
    exact ⟨htypes, fun options _ => not_doublesMark_of_mem_writtenTypes options htypes⟩

/-- A line of text, or null. -/
def noteLine : OrRef Schema := .inline { type := some (.several [.string, .null]) }

/-- Lines, or null.  Each line is put together from one that may be null, and may be null
itself. -/
def noteLines : OrRef Schema :=
  .inline
    { type := some (.single .array)
      nullable := some true
      items := some (.inline { nullable := some true, allOf := [noteLine] }) }

/-- A note may have lines. -/
def noteSchema : Schema where
  type := some (.single .object)
  properties := [("lines", noteLines)]

/-- A document with notes, lines that may be sent and lines that are returned. -/
def notesDocument : Document where
  version := "3.1.0"
  info := { title := "Notes", version := "1" }
  paths := [("/lines", { operations := [(.put,
    { operationId := some "update"
      requestBody := some (.inline
        { content := [("application/json", { schema := some noteLines })] })
      responses := [("200", .inline
        { content := [("application/json", { schema := some noteLines })] })] })] })]
  components := some { schemas := [("Note", .inline noteSchema)] }

/-- The class of a note. -/
def noteClass : ObjectModel where
  name := .ofText "Note"
  description := none
  properties := [⟨.ofText "lines", "lines", .nullable (.array (.nullable (.primitive .string))),
    false, none, false⟩]
  deprecated := false

/-- The class of a note is made from its definition. -/
theorem model_note : Schemas.model notesDocument.schemas "Note" = .ok (.object noteClass) := by
  have htype : Schemas.typeOf notesDocument.schemas noteLines =
      .ok (.nullable (.array (.nullable (.primitive .string)))) := by decide +kernel
  have hproperties : [⟨"lines", noteLines, false⟩].mapM
      (Schemas.modelProperty notesDocument.schemas "Note") = .ok noteClass.properties :=
    mapM_eq_ok_iff.mpr (.cons (Schemas.modelProperty_eq_ok_iff.mpr ⟨_, htype, rfl⟩) .nil)
  have hclass : Schemas.objectModel notesDocument.schemas "Note" noteSchema = .ok noteClass :=
    Schemas.objectModel_eq_ok_iff.mpr
      ⟨_, _, Schemas.flatten_of_uncomposed rfl, hproperties, rfl⟩
  have hmodel : Schemas.model notesDocument.schemas "Note" =
      (Schemas.objectModel notesDocument.schemas "Note" noteSchema).map .object := rfl
  rw [hmodel, hclass]
  rfl

/-- Null comes to the lines twice and to each line twice, and is written once. -/
theorem notes_never_doubled :
    ∃ r, ((Analyzer.ofDocument notesDocument []).value.analyze false).value = .ok r ∧
      writtenSignatures {} r =
        ["List<String?>?", "List<String?>?", "Response<List<String?>?>"] ∧
      .object noteClass ∈ r.models ∧ modelTypeTexts (.object noteClass) = ["List<String?>?"] ∧
      (∀ t ∈ r.types, t.NeverDoubled) ∧ ∀ text ∈ writtenTypes {} r, ¬DoublesMark text := by
  have hok := Analyzer.analyze_false_value (Analyzer.ofDocument notesDocument []).value
  obtain ⟨htypes, hwritten⟩ := (null_never_doubled notesDocument).2.2 [] false _ hok
  have hnote : .object noteClass ∈ (Analyzer.ofDocument notesDocument []).value.complete.models :=
    Analyzer.mem_models_iff.mpr ⟨"Note", by decide +kernel, model_note⟩
  exact ⟨_, hok, by decide +kernel, hnote, by decide +kernel, htypes, hwritten {}⟩

end ClientGen.Kotlin
