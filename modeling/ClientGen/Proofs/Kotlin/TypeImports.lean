import ClientGen.Proofs.Kotlin.Imports

/-!
# What a type needs imported

A type is written in one pass that notes on the way what its text needs imported.  The pass
never looks at what was noted before: its text is the text of the type, and what it
adds are the models and enums the type mentions and the classes of the dates that occur in
it.  An interface imports nothing else from the package of the models, since no class of
the fixed list lies there, and an operation that is not written adds nothing.

* `writeType_run`: one pass over a type;
* `mem_typeImports_iff`: what a type needs imported;
* `not_liesUnder_of_mem_libraryClasses`: the fixed list and the package of the models;
* `imports_settled_by_types`: types and interfaces.
-/

namespace ClientGen

/-- A primitive occurs in a type. -/
def TypeDesc.Holds (p : Primitive) : TypeDesc → Prop
  | .primitive q => q = p
  | .model _ => False
  | .enum _ => False
  | .array t => t.Holds p
  | .map t => t.Holds p
  | .nullable t => t.Holds p

namespace Kotlin

variable {options : Options} {modelPackage name : String}

/-! ### Types -/

/-- **One pass.**  The text is the same whatever was noted before, and what is noted is what
the type needs imported. -/
theorem writeType_run (modelPackage : String) (t : TypeDesc) (noted : NameSet) :
    (writeType modelPackage t).run noted =
      (typeText t, noted.insertAll (typeImports modelPackage t)) := by
  induction t with
  | primitive p => rfl
  | model key => rfl
  | enum key => rfl
  | array t ih =>
      have hitem : (writeType modelPackage (.array t)).run noted =
          ("List<" ++ ((writeType modelPackage t).run noted).1 ++ ">",
            ((writeType modelPackage t).run noted).2) := rfl
      rw [hitem, ih, typeText, typeImports]
  | map t ih =>
      have hvalue : (writeType modelPackage (.map t)).run noted =
          ("Map<String, " ++ ((writeType modelPackage t).run noted).1 ++ ">",
            ((writeType modelPackage t).run noted).2) := rfl
      rw [hvalue, ih, typeText, typeImports]
  | nullable t ih =>
      have hinner : (writeType modelPackage (.nullable t)).run noted =
          (((writeType modelPackage t).run noted).1 ++ "?",
            ((writeType modelPackage t).run noted).2) := rfl
      rw [hinner, ih, typeText, typeImports]

/-- A primitive needs imported at most its own class, which a date of either kind has. -/
theorem mem_primitiveImports_iff {p : Primitive} :
    name ∈ primitiveImports p ↔
      (p = .date ∧ name = localDate) ∨ (p = .dateTime ∧ name = offsetDateTime) := by
  cases p <;> simp [primitiveImports]

/-- A type needs imported the models and enums it mentions and the dates in it. -/
theorem mem_typeImports_iff {t : TypeDesc} :
    name ∈ typeImports modelPackage t ↔
      (∃ key ∈ t.keys, name = modelImport modelPackage key) ∨
        (t.Holds .date ∧ name = localDate) ∨ (t.Holds .dateTime ∧ name = offsetDateTime) := by
  induction t with
  | primitive p =>
      rw [typeImports, mem_primitiveImports_iff, TypeDesc.Holds, TypeDesc.Holds, TypeDesc.keys]
      simp
  | model key => simp [typeImports, TypeDesc.keys, TypeDesc.Holds]
  | enum key => simp [typeImports, TypeDesc.keys, TypeDesc.Holds]
  | array t ih => exact ih
  | map t ih => exact ih
  | nullable t ih => exact ih

/-! ### Interfaces -/

/-- A qualified name lies in a package or in one inside it. -/
def LiesUnder (package name : String) : Prop := ∃ rest, name = package ++ "." ++ rest

/-- Models lie in the package of the models. -/
theorem liesUnder_modelImport (key : String) :
    LiesUnder modelPackage (modelImport modelPackage key) :=
  ⟨typeName key, rfl⟩

/-- The classes of the list that lie outside the package that is generated. -/
def foreignClasses : List QualifiedName :=
  annotationWords.map (QualifiedName.mk httpPackage) ++ valueClasses ++
    [envelopeClass .coroutines, envelopeClass .observable]

/-- The classes of the list lie outside the package that is generated, or directly in it. -/
theorem foreign_or_own_of_mem_libraryClasses {package : String} {c : QualifiedName}
    (h : c ∈ libraryClasses package) :
    c ∈ foreignClasses ∨ ∃ word ∈ ownWords, c = ⟨package, word⟩ := by
  rcases List.mem_append.mp h with hcommon | henvelope
  · rcases List.mem_append.mp hcommon with hfirst | hvalue
    · rcases List.mem_append.mp hfirst with hannotation | hown
      · exact .inl (List.mem_append_left _ (List.mem_append_left _ hannotation))
      · obtain ⟨word, hword, rfl⟩ := List.mem_map.mp hown
        exact .inr ⟨word, hword, rfl⟩
    · exact .inl (List.mem_append_left _ (List.mem_append_right _ hvalue))
  · exact .inl (List.mem_append_right _ henvelope)

/-- The segment that the package of the models adds, with the dots around it. -/
def modelsSegment : List Char := ".models.".toList

/-- What lies in the package of the models goes on with its segment. -/
theorem toList_of_liesUnder (h : LiesUnder options.modelPackage name) :
    ∃ rest, name.toList = options.packageName.toList ++ (modelsSegment ++ rest) := by
  obtain ⟨rest, rfl⟩ := h
  have hsegment : modelsSegment = ".models".toList ++ ".".toList := by decide
  refine ⟨rest.toList, ?_⟩
  rw [hsegment, Options.modelPackage]
  simp only [String.toList_append, List.append_assoc]

/-- No class of the list lies under the package of the models: those of other packages have
no such segment in their names, and behind the package that is generated comes another
word. -/
theorem not_liesUnder_of_mem_libraryClasses {c : QualifiedName}
    (h : c ∈ libraryClasses options.packageName) : ¬LiesUnder options.modelPackage c.text := by
  have hforeign : ∀ c ∈ foreignClasses, ¬modelsSegment <:+: c.text.toList := by decide +kernel
  have hown : ∀ word ∈ ownWords, ¬modelsSegment <+: ('.' :: word.toList) := by decide
  intro hunder
  obtain ⟨rest, hrest⟩ := toList_of_liesUnder hunder
  rcases foreign_or_own_of_mem_libraryClasses h with hc | ⟨word, hword, rfl⟩
  · apply hforeign c hc
    exact ⟨options.packageName.toList, rest, by rw [hrest, List.append_assoc]⟩
  · have hdot : ".".toList = ['.'] := by decide
    rw [QualifiedName.text, String.toList_append, String.toList_append, hdot,
      List.append_assoc] at hrest
    have hbehind := List.append_cancel_left hrest
    exact hown word hword ⟨rest, hbehind.symm⟩

/-- From the package of the models an interface imports the types of the keys in the
signatures of the operations that are written. -/
theorem mem_imports_liesUnder_iff {api : AnalyzedApi} :
    (name ∈ (apiFile options api).imports ∧ LiesUnder options.modelPackage name) ↔
      ∃ op ∈ firstNamed [] api.operations, ∃ key ∈ op.signatureModels,
        name = modelImport options.modelPackage key := by
  constructor
  · intro h
    obtain ⟨himport, hunder⟩ := h
    rcases library_or_model_of_mem_imports himport with ⟨c, hc, rfl⟩ | hmodel
    · exact absurd hunder (not_liesUnder_of_mem_libraryClasses hc)
    · exact hmodel
  · intro h
    obtain ⟨op, hop, key, hkey, rfl⟩ := h
    exact ⟨modelImport_mem_imports hop hkey, liesUnder_modelImport key⟩

/-- **Imports and types.**  Whatever is imported already, writing a type gives the text of
the type and adds exactly the models and enums it mentions, by their names in the package of
the models, the class of dates if a date occurs in it, and the class of dates with a time if
one of those does.  And what an interface imports from the package of the models are exactly
the types of the keys in the signatures of the operations that are written. -/
theorem imports_settled_by_types :
    (∀ (modelPackage : String) (t : TypeDesc) (noted : NameSet),
      (writeType modelPackage t).run noted =
          (typeText t, noted.insertAll (typeImports modelPackage t)) ∧
        ∀ name, name ∈ noted.insertAll (typeImports modelPackage t) ↔
          name ∈ noted ∨ (∃ key ∈ t.modelNames, name = modelImport modelPackage key) ∨
            (t.Holds .date ∧ name = localDate) ∨ (t.Holds .dateTime ∧ name = offsetDateTime)) ∧
    ∀ (options : Options) (api : AnalyzedApi) (name : String),
      (name ∈ (apiFile options api).imports ∧ LiesUnder options.modelPackage name) ↔
        ∃ op ∈ firstNamed [] api.operations, ∃ key ∈ op.signatureModels,
          name = modelImport options.modelPackage key := by
  constructor
  · intro modelPackage t noted
    refine ⟨writeType_run modelPackage t noted, fun name => ?_⟩
    rw [NameSet.mem_insertAll, mem_typeImports_iff]
    simp only [TypeDesc.modelNames, NameSet.mem_ofList]
  · intro options api name
    exact mem_imports_liesUnder_iff

end Kotlin

end ClientGen
