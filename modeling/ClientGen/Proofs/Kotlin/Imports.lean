import ClientGen.Proofs.Kotlin.FileNames
import ClientGen.Proofs.NameSet

/-!
# What an interface imports

An interface imports the models its signatures mention, and with them annotations, dates,
bodies and an envelope from a fixed list of classes.  The classes of the list have different
names, and so have different models of one package, but nothing keeps a model from having
the name of a class of the list.

* `QualifiedName.text_injective`: a qualified name settles its class;
* `library_or_model_of_mem_imports`: where an import of an interface comes from;
* `modelImport_mem_imports`: each key in a signature is imported;
* `simpleNames_nodup_iff`: when no two imports have one name.
-/

namespace ClientGen.Kotlin

variable {options : Options} {package name key : String}

/-! ### Qualified names -/

/-- What follows the last dot of a qualified name. -/
def simpleName (name : String) : String :=
  String.ofList (name.toList.reverse.takeWhile (· ≠ '.')).reverse

/-- A class and the package it lies in. -/
structure QualifiedName where
  package : String
  word : String
  deriving DecidableEq, Repr

namespace QualifiedName

/-- The name as it is imported. -/
def text (c : QualifiedName) : String := c.package ++ "." ++ c.word

/-- The simple name of a class is its word. -/
theorem simpleName_text {c : QualifiedName} (h : '.' ∉ c.word.toList) :
    simpleName c.text = c.word := by
  have hreverse : c.text.toList.reverse =
      c.word.toList.reverse ++ '.' :: c.package.toList.reverse := by
    have hdot : ".".toList = ['.'] := by decide
    rw [text, String.toList_append, String.toList_append, hdot, List.reverse_append,
      List.reverse_append, List.reverse_singleton, List.singleton_append]
  have hword : ∀ x ∈ c.word.toList.reverse, decide (x ≠ '.') = true := by
    intro x hx
    have hne : x ≠ '.' := fun heq => h (heq ▸ List.mem_reverse.mp hx)
    simpa using hne
  rw [simpleName, hreverse, List.takeWhile_append_of_pos hword,
    List.takeWhile_cons_of_neg (by simp), List.append_nil, List.reverse_reverse,
    String.ofList_toList]

/-- **A qualified name settles its class**, if the names of classes have no dots. -/
theorem text_injective {c d : QualifiedName} (hc : '.' ∉ c.word.toList)
    (hd : '.' ∉ d.word.toList) (h : c.text = d.text) : c = d := by
  obtain ⟨package, word⟩ := c
  obtain ⟨other, otherWord⟩ := d
  have hword : word = otherWord := by
    have hsimple := congrArg simpleName h
    rwa [simpleName_text hc, simpleName_text hd] at hsimple
  subst hword
  have hpackage : package = other :=
    (String.append_left_inj _).mp ((String.append_left_inj _).mp h)
  rw [hpackage]

end QualifiedName

/-! ### The classes that may be imported -/

/-- The annotations that describe calls and their parameters. -/
def annotationWords : List String :=
  Method.all.map Method.text ++ ["HTTP", "Headers", "Multipart", "FormUrlEncoded", "Path",
    "Query", "Header", "Body", "Part", "Field"]

/-- The classes of the package itself. -/
def ownWords : List String := ["ApiAuthInterceptor", "ApiHolder"]

/-- The classes of bodies and dates. -/
def valueClasses : List QualifiedName :=
  [⟨"okhttp3", "MultipartBody"⟩, ⟨"okhttp3", "ResponseBody"⟩, ⟨"java.time", "LocalDate"⟩,
    ⟨"java.time", "OffsetDateTime"⟩]

/-- The classes that an interface may need in either call style, models aside. -/
def commonClasses (package : String) : List QualifiedName :=
  annotationWords.map (QualifiedName.mk httpPackage) ++ ownWords.map (QualifiedName.mk package) ++
    valueClasses

/-- The class of the envelope of a call style. -/
def envelopeClass : CallStyle → QualifiedName
  | .coroutines => ⟨"retrofit2", "Response"⟩
  | .observable => ⟨"io.reactivex", "Observable"⟩

/-- The classes that an interface may need, models aside. -/
def libraryClasses (package : String) : List QualifiedName :=
  commonClasses package ++ [envelopeClass .coroutines, envelopeClass .observable]

/-- The class of a model. -/
def modelClass (options : Options) (key : String) : QualifiedName :=
  ⟨options.modelPackage, typeName key⟩

/-- The class of an envelope is what is imported for it. -/
theorem text_envelopeClass (style : CallStyle) :
    (envelopeClass style).text = envelopeImport style := by
  cases style <;> decide

/-- Envelopes are among the classes of libraries. -/
theorem envelopeClass_mem_libraryClasses (style : CallStyle) :
    envelopeClass style ∈ libraryClasses package := by
  refine List.mem_append_right _ ?_
  cases style
  · exact List.mem_cons_self
  · exact List.mem_cons_of_mem _ List.mem_cons_self

/-- The classes of the list have different names, whatever the package is. -/
theorem nodup_words_libraryClasses (package : String) :
    ((libraryClasses package).map (·.word)).Nodup := by
  change ((libraryClasses "").map (·.word)).Nodup
  decide

theorem not_dot_of_mem_libraryClasses {c : QualifiedName} (h : c ∈ libraryClasses package) :
    '.' ∉ c.word.toList := by
  have hwords : ∀ word ∈ (libraryClasses "").map (·.word), '.' ∉ word.toList := by decide
  have hmem : c.word ∈ (libraryClasses package).map (·.word) := List.mem_map_of_mem h
  exact hwords _ hmem

/-- The word of a model has no dot. -/
theorem not_dot_modelClass (options : Options) (key : String) :
    '.' ∉ (modelClass options key).word.toList := by
  have hkey : '.' ∉ (typeName key).toList := (isSegment_typeName key).no_dot
  simpa only [modelClass] using hkey

theorem simpleName_library {c : QualifiedName} (h : c ∈ libraryClasses package) :
    simpleName c.text = c.word :=
  QualifiedName.simpleName_text (not_dot_of_mem_libraryClasses h)

/-- The class of a model is what is imported for it. -/
theorem text_modelClass (options : Options) (key : String) :
    (modelClass options key).text = modelImport options.modelPackage key := by
  rw [QualifiedName.text, modelClass, modelImport]

/-- The simple name of a model is the name of its type. -/
theorem simpleName_modelImport (options : Options) (key : String) :
    simpleName (modelImport options.modelPackage key) = typeName key := by
  rw [← text_modelClass, QualifiedName.simpleName_text (not_dot_modelClass options key), modelClass]

/-- The packages of the classes of the list, apart from the package that is generated. -/
def libraryPackages : List String :=
  [httpPackage, "okhttp3", "java.time", "retrofit2", "io.reactivex"]

/-- The classes lie in the package that is generated or in one of a library. -/
theorem package_of_mem_libraryClasses {c : QualifiedName} (h : c ∈ libraryClasses package) :
    c.package = package ∨ c.package ∈ libraryPackages := by
  rcases List.mem_append.mp h with h | henvelope
  · rcases List.mem_append.mp h with h | hvalue
    · rcases List.mem_append.mp h with hannotation | hown
      · obtain ⟨word, _, rfl⟩ := List.mem_map.mp hannotation
        exact .inr List.mem_cons_self
      · obtain ⟨word, _, rfl⟩ := List.mem_map.mp hown
        exact .inl rfl
    · have hall : ∀ c ∈ valueClasses, c.package ∈ libraryPackages := by decide
      exact .inr (hall c hvalue)
  · have hall : ∀ style, (envelopeClass style).package ∈ libraryPackages := by
      intro style
      cases style <;> decide
    rcases List.mem_pair.mp henvelope with rfl | rfl
    · exact .inr (hall _)
    · exact .inr (hall _)

/-- No class of the list lies in the package of the models, whose name ends in a letter
that no other package ends in. -/
theorem package_ne_modelPackage {c : QualifiedName} (h : c ∈ libraryClasses options.packageName) :
    c.package ≠ options.modelPackage := by
  have hlast : (options.packageName ++ ".models").toList.getLast? = some 's' := by simp
  have hother : ∀ package ∈ libraryPackages, package.toList.getLast? ≠ some 's' := by decide
  intro heq
  rcases package_of_mem_libraryClasses h with hown | hlibrary
  · have hlength := congrArg (fun s => s.toList.length) (hown.symm.trans heq)
    simp [Options.modelPackage] at hlength
  · rw [heq] at hlibrary
    exact hother _ hlibrary hlast

/-- No class of a library is a model. -/
theorem text_ne_modelImport {c : QualifiedName} (h : c ∈ libraryClasses options.packageName)
    (key : String) : c.text ≠ modelImport options.modelPackage key := by
  intro heq
  have hclass : c = modelClass options key :=
    QualifiedName.text_injective (not_dot_of_mem_libraryClasses h) (not_dot_modelClass _ _)
      (heq.trans (text_modelClass options key).symm)
  exact package_ne_modelPackage h (congrArg QualifiedName.package hclass)

/-! ### Imports of an operation -/

/-- What the functions of an operation need imported, apart from the envelope. -/
def commonImports (options : Options) (op : AnalyzedOperation) : List String :=
  (functionMarkers op).flatMap (·.imports options.packageName)
    ++ (op.parameters.flatMap fun p =>
      (parameterMarker p.interface).imports
        ++ parameterTypeImports options.modelPackage p.interface)
    ++ resultImports options.modelPackage op.returns

/-- A function imports its envelope behind what it imports in either style. -/
theorem functionImports_eq (op : AnalyzedOperation) :
    functionImports options op =
      commonImports options op ++ [envelopeImport options.callStyle] := by
  rw [functionImports, commonImports]

/-- An import of a class that both call styles may need. -/
def IsCommon (package name : String) : Prop := ∃ c ∈ commonClasses package, name = c.text

/-- The annotations are common imports. -/
theorem isCommon_http (word : String) (h : word ∈ annotationWords) :
    IsCommon package (httpPackage ++ "." ++ word) :=
  ⟨⟨httpPackage, word⟩,
    List.mem_append_left _ (List.mem_append_left _ (List.mem_map_of_mem h)), rfl⟩

theorem word_mem_annotationWords (a : ParameterMarker) : a.word ∈ annotationWords := by
  refine List.mem_append_right _ ?_
  cases a <;> simp [ParameterMarker.word]

/-- The classes of the package that is generated are common imports. -/
theorem isCommon_own (word : String) (h : word ∈ ownWords) :
    IsCommon package (package ++ ("." ++ word)) := by
  refine ⟨⟨package, word⟩,
    List.mem_append_left _ (List.mem_append_right _ (List.mem_map_of_mem h)), ?_⟩
  rw [QualifiedName.text, String.append_assoc]

/-- The classes of values are common imports. -/
theorem isCommon_value (c : QualifiedName) (h : c ∈ valueClasses) (hname : name = c.text) :
    IsCommon package name :=
  ⟨c, List.mem_append_right _ h, hname⟩

/-- The annotations of functions import nothing but common names. -/
theorem isCommon_of_mem_marker {a : FunctionMarker} (h : name ∈ a.imports package) :
    IsCommon package name := by
  cases a with
  | deprecated => cases h
  | verb method path =>
      rw [List.mem_singleton.mp h]
      exact isCommon_http _ (by cases method <;> decide)
  | http method path hasBody =>
      rw [List.mem_singleton.mp h]
      exact isCommon_http "HTTP" (by decide)
  | headers schemes =>
      rcases List.mem_pair.mp h with rfl | rfl
      · exact isCommon_http "Headers" (by decide)
      · exact isCommon_own "ApiAuthInterceptor" (by decide)
  | multipart =>
      rw [List.mem_singleton.mp h]
      exact isCommon_http "Multipart" (by decide)
  | formUrlEncoded =>
      rw [List.mem_singleton.mp h]
      exact isCommon_http "FormUrlEncoded" (by decide)

/-- What a type needs imported is the class of a date or a model it mentions. -/
theorem isCommon_or_model_of_mem_typeImports {t : TypeDesc}
    (h : name ∈ typeImports options.modelPackage t) :
    IsCommon options.packageName name ∨
      ∃ key ∈ t.keys, name = modelImport options.modelPackage key := by
  induction t with
  | primitive p =>
      cases p with
      | date =>
          rw [List.mem_singleton.mp h]
          exact .inl (isCommon_value ⟨"java.time", "LocalDate"⟩ (by decide) (by decide))
      | dateTime =>
          rw [List.mem_singleton.mp h]
          exact .inl (isCommon_value ⟨"java.time", "OffsetDateTime"⟩ (by decide) (by decide))
      | _ => cases h
  | model key | enum key => exact .inr ⟨key, List.mem_cons_self, List.mem_singleton.mp h⟩
  | array t ih | map t ih | nullable t ih => exact ih h

/-- A type imports each model it mentions. -/
theorem modelImport_mem_typeImports {t : TypeDesc} {modelPackage : String} (h : key ∈ t.keys) :
    modelImport modelPackage key ∈ typeImports modelPackage t := by
  induction t with
  | primitive p => cases h
  | model key | enum key =>
      rw [List.mem_singleton.mp h]
      exact List.mem_cons_self
  | array t ih | map t ih | nullable t ih => exact ih h

theorem keys_nonNull (t : TypeDesc) : t.nonNull.keys = t.keys := by
  cases t <;> rfl

/-- A part that is a file mentions no key. -/
theorem keys_of_isFilePart {p : InterfaceParameter} (h : isFilePart p = true) :
    p.type.keys = [] := by
  have hbinary : p.type.nonNull = .primitive .binary := by
    simpa [TypeDesc.isBinary] using ((Bool.and_eq_true _ _).mp h).2
  rw [← keys_nonNull, hbinary]
  rfl

/-- A signature mentions the keys of its parameters and of what is returned. -/
theorem mem_signatureModels_iff {op : AnalyzedOperation} :
    key ∈ op.signatureModels ↔
      (∃ p ∈ op.parameters, key ∈ p.interface.type.keys) ∨ key ∈ op.returnKeys := by
  rw [AnalyzedOperation.signatureModels, NameSet.mem_ofList, List.mem_append, List.mem_flatMap]

/-- What an operation needs imported for either style is a common class or a model its
signature mentions. -/
theorem isCommon_or_model_of_mem_commonImports {op : AnalyzedOperation}
    (h : name ∈ commonImports options op) :
    IsCommon options.packageName name ∨
      ∃ key ∈ op.signatureModels, name = modelImport options.modelPackage key := by
  rcases List.mem_append.mp h with h | hresult
  · rcases List.mem_append.mp h with hmarkers | hparameters
    · obtain ⟨a, _, ha⟩ := List.mem_flatMap.mp hmarkers
      exact .inl (isCommon_of_mem_marker ha)
    · obtain ⟨p, hp, hname⟩ := List.mem_flatMap.mp hparameters
      rcases List.mem_append.mp hname with hword | htype
      · rw [List.mem_singleton.mp hword]
        exact .inl (isCommon_http _ (word_mem_annotationWords _))
      · rw [parameterTypeImports] at htype
        by_cases hfile : isFilePart p.interface = true
        · rw [if_pos hfile] at htype
          rw [List.mem_singleton.mp htype]
          exact .inl (isCommon_value ⟨"okhttp3", "MultipartBody"⟩ (by decide) (by decide))
        · rw [if_neg hfile] at htype
          refine (isCommon_or_model_of_mem_typeImports htype).imp_right ?_
          rintro ⟨key, hkey, rfl⟩
          exact ⟨key, mem_signatureModels_iff.mpr (.inl ⟨p, hp, hkey⟩), rfl⟩
  · cases hreturns : op.returns with
    | json t =>
        rw [hreturns] at hresult
        refine (isCommon_or_model_of_mem_typeImports hresult).imp_right ?_
        rintro ⟨key, hkey, rfl⟩
        refine ⟨key, mem_signatureModels_iff.mpr (.inr ?_), rfl⟩
        rwa [AnalyzedOperation.returnKeys, hreturns]
    | binary =>
        rw [hreturns] at hresult
        rw [List.mem_singleton.mp hresult]
        exact .inl (isCommon_value ⟨"okhttp3", "ResponseBody"⟩ (by decide) (by decide))
    | empty =>
        rw [hreturns] at hresult
        cases hresult

/-- Every key in the signature of an operation is imported. -/
theorem modelImport_mem_commonImports {op : AnalyzedOperation} (h : key ∈ op.signatureModels) :
    modelImport options.modelPackage key ∈ commonImports options op := by
  rcases mem_signatureModels_iff.mp h with ⟨p, hp, hkey⟩ | hkey
  · refine List.mem_append_left _ (List.mem_append_right _ (List.mem_flatMap.mpr ⟨p, hp, ?_⟩))
    refine List.mem_append_right _ ?_
    have hnotFile : ¬isFilePart p.interface = true := by
      intro hfile
      rw [keys_of_isFilePart hfile] at hkey
      cases hkey
    rw [parameterTypeImports, if_neg hnotFile]
    exact modelImport_mem_typeImports hkey
  · refine List.mem_append_right _ ?_
    cases hreturns : op.returns with
    | json t =>
        rw [AnalyzedOperation.returnKeys, hreturns] at hkey
        exact modelImport_mem_typeImports hkey
    | binary | empty =>
        rw [AnalyzedOperation.returnKeys, hreturns] at hkey
        cases hkey

/-! ### Imports of an interface -/

/-- An interface imports what its functions do, and the holder. -/
theorem mem_imports_apiFile {api : AnalyzedApi} :
    name ∈ (apiFile options api).imports ↔
      (∃ op ∈ firstNamed [] api.operations,
        name ∈ commonImports options op ∨ name = envelopeImport options.callStyle) ∨
      name = options.packageName ++ ".ApiHolder" := by
  rw [apiFile, NameSet.mem_ofList]
  simp only [List.mem_append, List.mem_flatMap, functionImports_eq, List.mem_singleton]

/-- An interface imports classes of the list and models its signatures mention. -/
theorem library_or_model_of_mem_imports {api : AnalyzedApi}
    (h : name ∈ (apiFile options api).imports) :
    (∃ c ∈ libraryClasses options.packageName, name = c.text) ∨
      ∃ op ∈ firstNamed [] api.operations, ∃ key ∈ op.signatureModels,
        name = modelImport options.modelPackage key := by
  have hcommon : IsCommon options.packageName name →
      ∃ c ∈ libraryClasses options.packageName, name = c.text := by
    rintro ⟨c, hc, rfl⟩
    exact ⟨c, List.mem_append_left _ hc, rfl⟩
  rcases mem_imports_apiFile.mp h with ⟨op, hop, hname | rfl⟩ | rfl
  · rcases isCommon_or_model_of_mem_commonImports hname with hname | hname
    · exact .inl (hcommon hname)
    · exact .inr ⟨op, hop, hname⟩
  · exact .inl ⟨_, envelopeClass_mem_libraryClasses _, (text_envelopeClass _).symm⟩
  · exact .inl (hcommon (isCommon_own "ApiHolder" (by decide)))

/-- An interface imports each model in a signature that is written. -/
theorem modelImport_mem_imports {api : AnalyzedApi} {op : AnalyzedOperation}
    (hop : op ∈ firstNamed [] api.operations) (hkey : key ∈ op.signatureModels) :
    modelImport options.modelPackage key ∈ (apiFile options api).imports :=
  mem_imports_apiFile.mpr (.inl ⟨op, hop, .inl (modelImport_mem_commonImports hkey)⟩)

/-- The imports of an interface have different simple names exactly if those with one simple
name are the same. -/
theorem nodup_simpleNames_iff {api : AnalyzedApi} :
    ((apiFile options api).imports.toList.map simpleName).Nodup ↔
      ∀ a ∈ (apiFile options api).imports, ∀ b ∈ (apiFile options api).imports,
        simpleName a = simpleName b → a = b := by
  have hascending : (apiFile options api).imports.Ascending := NameSet.ascending_ofList _
  have hnodup : (apiFile options api).imports.toList.Nodup :=
    hascending.imp fun hlt => ne_of_lt hlt
  exact List.nodup_map_iff_inj_on hnodup

/-- **Imports of an interface.**  No two of them have the same simple name exactly if no
class of the list that is imported has the name of a model in the signatures of the
operations that are written.  Classes of the list never share a name with each other, nor
do different models that are imported. -/
theorem simpleNames_nodup_iff (options : Options) (api : AnalyzedApi) :
    ((apiFile options api).imports.toList.map simpleName).Nodup ↔
      ∀ op ∈ firstNamed [] api.operations, ∀ key ∈ op.signatureModels,
        ∀ c ∈ libraryClasses options.packageName,
          c.text ∈ (apiFile options api).imports → c.word ≠ typeName key := by
  rw [nodup_simpleNames_iff]
  constructor
  · intro h op hop key hkey c hc himport hword
    have heq := h _ himport _ (modelImport_mem_imports hop hkey)
      (by rw [simpleName_library hc, simpleName_modelImport, hword])
    exact text_ne_modelImport hc key heq
  · intro h a ha b hb heq
    rcases library_or_model_of_mem_imports ha with ⟨c, hc, rfl⟩ | ⟨op, hop, key, hkey, rfl⟩ <;>
      rcases library_or_model_of_mem_imports hb with ⟨d, hd, rfl⟩ | ⟨op', hop', key', hkey', rfl⟩
    · -- Two classes of the list.
      rw [simpleName_library hc, simpleName_library hd] at heq
      rw [List.inj_on_of_nodup_map (nodup_words_libraryClasses _) hc hd heq]
    · rw [simpleName_library hc, simpleName_modelImport] at heq
      exact absurd heq (h op' hop' key' hkey' c hc ha)
    · rw [simpleName_library hd, simpleName_modelImport] at heq
      exact absurd heq.symm (h op hop key hkey d hd hb)
    · -- Two models, which lie in one package.
      rw [simpleName_modelImport, simpleName_modelImport] at heq
      rw [modelImport, modelImport, heq]

/-- A document with one operation, which returns a declared enumeration. -/
def returning (key : String) : Document where
  version := "3.0.3"
  info := ⟨"Pets", none, "1"⟩
  paths := [("/ping", { operations := [(.get, { tags := ["ping"], responses := [("200", .inline
    { content :=
        [("application/json", ⟨some (.ref ("#/components/schemas/" ++ key))⟩)] })] })] })]
  components := some { schemas := [(key, .inline { literals := [.text "open"] })] }

/-- A model with the name of the envelope. -/
theorem simpleNames_of_response :
    ∃ r, ((Analyzer.ofDocument (returning "Response") []).value.analyze false).value = .ok r ∧
      ∃ api ∈ r.apis, ¬((apiFile {} api).imports.toList.map simpleName).Nodup := by
  refine ⟨_, Analyzer.analyze_false_value _, ?_⟩
  decide +kernel

end ClientGen.Kotlin
