import ClientGen.Proofs.Kotlin.Imports

/-!
# The two call styles

A client for coroutines and one for observables are made of the same analysis and differ
in the envelope of the results alone.  Files of models and the interceptor are the same.
The holder of the one has one line and one import more.  In an interface each function
keeps all but what stands in front of it and the class around its result, and the files
need the same imports but for that class.

The class of the envelope is never needed for anything else: every other import is a class
that both styles may need, or a model.

* `functionText_rewrapped`: one operation in the two styles;
* `imports_apiFile`, `envelopeImport_not_mem_interfaceImports`: what an interface needs
  imported, apart from the envelope;
* `rewrapped_apiFile`, `adapted_holderFile`: the files that differ;
* `generate_inStyle`: the two clients.
-/

namespace ClientGen

/-- The options with another call style. -/
def Options.inStyle (options : Options) (style : CallStyle) : Options :=
  { options with callStyle := style }

namespace Kotlin

variable {options : Options}

/-! ### Functions -/

/-- Two texts for one operation: the first suspends and returns a response, the second
returns an observable of the same type, and all else is the same. -/
def FunctionText.Rewrapped (suspending observing : FunctionText) : Prop :=
  ∃ result, suspending.modifiers = "suspend " ∧
    suspending.returnType = "Response<" ++ result ++ ">" ∧
    observing =
      { suspending with modifiers := "", returnType := "Observable<" ++ result ++ ">" }

/-- A function differs in its envelope only between the styles. -/
theorem functionText_rewrapped (options : Options) (op : AnalyzedOperation) :
    (functionText (options.inStyle .coroutines) op).Rewrapped
      (functionText (options.inStyle .observable) op) :=
  ⟨resultType op.returns, rfl, rfl, rfl⟩

/-- The functions of a group as they are written. -/
def writtenFunctions (options : Options) (api : AnalyzedApi) : List FunctionText :=
  (firstNamed [] api.operations).map (functionText options)

/-- The same operations are written in both styles. -/
theorem writtenFunctions_rewrapped (options : Options) (api : AnalyzedApi) :
    List.Forall₂ FunctionText.Rewrapped (writtenFunctions (options.inStyle .coroutines) api)
      (writtenFunctions (options.inStyle .observable) api) := by
  rw [writtenFunctions, writtenFunctions, List.forall₂_map_left_iff, List.forall₂_map_right_iff]
  exact List.forall₂_same.mpr fun op _ => functionText_rewrapped options op

/-! ### Imports of an interface -/

/-- What the interface of a group needs imported, apart from the envelope. -/
def interfaceImports (options : Options) (api : AnalyzedApi) : NameSet :=
  .ofList ((firstNamed [] api.operations).flatMap (commonImports options)
    ++ [options.packageName ++ ".ApiHolder"])

/-- The class of an envelope is no class that both styles may need. -/
theorem not_isCommon_envelopeImport (style : CallStyle) (package : String) :
    ¬IsCommon package (envelopeImport style) := by
  rintro ⟨c, hc, heq⟩
  have hlisted : envelopeClass style ∈ libraryClasses package :=
    envelopeClass_mem_libraryClasses style
  have henvelope : envelopeClass style = c :=
    QualifiedName.text_injective (not_dot_of_mem_libraryClasses hlisted)
      (not_dot_of_mem_libraryClasses (List.mem_append_left _ hc))
      ((text_envelopeClass style).trans heq)
  have hwords : (envelopeClass style).word ∉ (commonClasses "").map (·.word) := by
    cases style <;> decide
  have hmem : c.word ∈ (commonClasses package).map (·.word) := List.mem_map_of_mem hc
  exact hwords (henvelope ▸ hmem)

/-- The class of an envelope is needed for the envelope alone. -/
theorem envelopeImport_not_mem_interfaceImports (style : CallStyle) {api : AnalyzedApi} :
    envelopeImport style ∉ interfaceImports options api := by
  intro h
  have hnotCommon := not_isCommon_envelopeImport style options.packageName
  rcases List.mem_append.mp (NameSet.mem_ofList.mp h) with hfunctions | hholder
  · obtain ⟨op, _, hop⟩ := List.mem_flatMap.mp hfunctions
    rcases isCommon_or_model_of_mem_commonImports hop with hcommon | ⟨key, _, hmodel⟩
    · exact hnotCommon hcommon
    · rw [← text_envelopeClass] at hmodel
      exact text_ne_modelImport (envelopeClass_mem_libraryClasses style) key hmodel
  · rw [List.mem_singleton.mp hholder] at hnotCommon
    exact hnotCommon (isCommon_own "ApiHolder" (by decide))

/-- An interface with a function needs the class of the envelope and what is common to
both styles. -/
theorem imports_apiFile {api : AnalyzedApi} (hne : api.operations ≠ []) :
    (apiFile options api).imports =
      (interfaceImports options api).insert (envelopeImport options.callStyle) := by
  -- No name is given before the first operation, so at least that one is written.
  have hwritten : ∃ op, op ∈ firstNamed [] api.operations := by
    obtain ⟨op, rest, hop⟩ := List.exists_cons_of_ne_nil hne
    exact ⟨op, by simp [hop, firstNamed]⟩
  obtain ⟨first, hfirst⟩ := hwritten
  refine NameSet.Ascending.eq_of_mem_iff (NameSet.ascending_ofList _)
    ((NameSet.ascending_ofList _).insert _) fun name => ?_
  rw [NameSet.mem_insert, interfaceImports, apiFile, NameSet.mem_ofList, NameSet.mem_ofList]
  simp only [List.mem_append, List.mem_flatMap, functionImports_eq, List.mem_singleton]
  constructor
  · rintro (⟨op, hop, hcommon | henvelope⟩ | hholder)
    · exact .inr (.inl ⟨op, hop, hcommon⟩)
    · exact .inl henvelope
    · exact .inr (.inr hholder)
  · rintro (henvelope | ⟨op, hop, hcommon⟩ | hholder)
    · exact .inl ⟨first, hfirst, .inr henvelope⟩
    · exact .inl ⟨op, hop, .inl hcommon⟩
    · exact .inr hholder

/-! ### Files -/

/-- Two files with one interface, whose functions are written in the two styles. -/
structure RewrappedFile (first second : List FunctionText) (suspending observing : SourceFile) :
    Prop where
  package : observing.package = suspending.package
  fileName : observing.fileName = suspending.fileName
  functions : List.Forall₂ FunctionText.Rewrapped first second
  suspendingText :
    suspending.declarations = [declaration (interfaceLines suspending.fileName first)]
  observingText :
    observing.declarations = [declaration (interfaceLines suspending.fileName second)]
  imports : ∃ common : NameSet, "retrofit2.Response" ∉ common ∧
    "io.reactivex.Observable" ∉ common ∧
    suspending.imports = common.insert "retrofit2.Response" ∧
    observing.imports = common.insert "io.reactivex.Observable"

/-- The file of a group differs in its envelopes only between the styles. -/
theorem rewrapped_apiFile (options : Options) {api : AnalyzedApi} (hne : api.operations ≠ []) :
    RewrappedFile (writtenFunctions (options.inStyle .coroutines) api)
      (writtenFunctions (options.inStyle .observable) api)
      (apiFile (options.inStyle .coroutines) api)
      (apiFile (options.inStyle .observable) api) where
  package := rfl
  fileName := rfl
  functions := writtenFunctions_rewrapped options api
  suspendingText := rfl
  observingText := rfl
  imports :=
    ⟨interfaceImports options api, envelopeImport_not_mem_interfaceImports .coroutines,
      envelopeImport_not_mem_interfaceImports .observable, imports_apiFile hne,
      imports_apiFile hne⟩

/-- Two files of one holder: the second has one line more, and the import for it. -/
structure AdaptedFile (plain adapted : SourceFile) : Prop where
  package : adapted.package = plain.package
  fileName : adapted.fileName = plain.fileName
  text : ∃ before after, plain.declarations = ["\n".intercalate (before ++ after)] ∧
    adapted.declarations = ["\n".intercalate (before ++
      ["        .addCallAdapterFactory(RxJava2CallAdapterFactory.create())"] ++ after)]
  imports : "retrofit2.adapter.rxjava2.RxJava2CallAdapterFactory" ∉ plain.imports ∧
    adapted.imports =
      plain.imports.insert "retrofit2.adapter.rxjava2.RxJava2CallAdapterFactory"

/-- The file of the holder differs in one line and one import between the styles. -/
theorem adapted_holderFile (options : Options) (d : Document) :
    AdaptedFile (holderFile (options.inStyle .coroutines) d)
      (holderFile (options.inStyle .observable) d) where
  package := rfl
  fileName := rfl
  text := by
    refine ⟨holderHead (Text.trim d.info.title) (baseUrl d) ++ holderFields, holderMembers, ?_, ?_⟩
    · change ["\n".intercalate (_ ++ [] ++ _)] = _
      rw [List.append_nil]
    · rfl
  imports := by
    constructor
    · have hplain : "retrofit2.adapter.rxjava2.RxJava2CallAdapterFactory" ∉
          holderImports .coroutines := by decide
      exact fun h => hplain (NameSet.mem_ofList.mp h)
    · have himports : holderImports .observable = holderImports .coroutines ++
          ["retrofit2.adapter.rxjava2.RxJava2CallAdapterFactory"] := rfl
      change NameSet.ofList (holderImports .observable) = _
      rw [himports, NameSet.ofList_concat]
      rfl

/-- The style of calls changes no paths. -/
theorem paths_inStyle (options : Options) (style : CallStyle) (d : Document) (r : Analysis) :
    (clientFiles (options.inStyle style) d r).map (·.path "kt") =
      (clientFiles options d r).map (·.path "kt") := by
  rw [paths_clientFiles, paths_clientFiles]
  rfl

/-- The files that are made of one analysis in the two styles. -/
structure FilesInBothStyles (options : Options) (d : Document) (r : Analysis) : Prop where
  models : r.models.map (modelFile (options.inStyle .observable)) =
    r.models.map (modelFile (options.inStyle .coroutines))
  interceptor : interceptorFile (options.inStyle .observable) d =
    interceptorFile (options.inStyle .coroutines) d
  holder : AdaptedFile (holderFile (options.inStyle .coroutines) d)
    (holderFile (options.inStyle .observable) d)
  interfaces : ∀ api ∈ writtenApis r,
    RewrappedFile (writtenFunctions (options.inStyle .coroutines) api)
      (writtenFunctions (options.inStyle .observable) api)
      (apiFile (options.inStyle .coroutines) api)
      (apiFile (options.inStyle .observable) api)

/-- All files together in both styles. -/
theorem filesInBothStyles (options : Options) (d : Document) (r : Analysis) :
    FilesInBothStyles options d r where
  models := rfl
  interceptor := rfl
  holder := adapted_holderFile options d
  interfaces := by
    intro api hapi
    have hwritten : api.operations ≠ [] := by simpa using (List.mem_filter.mp hapi).2
    exact rewrapped_apiFile options hwritten

/-- **Call styles.**  If the analysis ends with a failure, both styles end with it.
Otherwise there is a client in either style, made of the one analysis and with the same
failures, and their files have the same paths.  Models and interceptor are the same, the
holder for observables has one line and its import more, and each interface has the same
functions but for the envelope of their results. -/
theorem generate_inStyle (options : Options) (a : Analyzer) :
    (∃ f, (a.analyze options.failFast).value = .error f ∧
      (generate (options.inStyle .coroutines) a).value = .error f ∧
      (generate (options.inStyle .observable) a).value = .error f) ∨
    ∃ r suspending observing, (a.analyze options.failFast).value = .ok r ∧
      (generate (options.inStyle .coroutines) a).value = .ok suspending ∧
      (generate (options.inStyle .observable) a).value = .ok observing ∧
      suspending.files =
        (clientFiles (options.inStyle .coroutines) a.document r).map (·.render) ∧
      observing.files =
        (clientFiles (options.inStyle .observable) a.document r).map (·.render) ∧
      observing.files.map (·.path) = suspending.files.map (·.path) ∧
      observing.failures = suspending.failures ∧
      FilesInBothStyles options a.document r := by
  have hanalyze := Analyzer.analyze_value a options.failFast
  have hgenerate (style : CallStyle) := generate_value (options.inStyle style) a
  have hpaths (style : CallStyle) (r : Analysis) :
      ((clientFiles (options.inStyle style) a.document r).map (·.render)).map (·.path) =
        (clientFiles options a.document r).map (·.path "kt") := by
    rw [List.map_map, ← paths_inStyle options style]
    rfl
  cases hsettled : settle options.failFast a.complete.failures a.complete with
  | error f =>
      have herror (style : CallStyle) : (generate (options.inStyle style) a).value = .error f :=
        (hgenerate style).trans (congrArg _ hsettled)
      exact .inl ⟨f, hanalyze.trans hsettled, herror _, herror _⟩
  | ok r =>
      refine .inr ⟨r, _, _, hanalyze.trans hsettled, (hgenerate _).trans (congrArg _ hsettled),
        (hgenerate _).trans (congrArg _ hsettled), rfl, rfl, ?_, rfl,
        filesInBothStyles options a.document r⟩
      rw [hpaths, hpaths]

end Kotlin

end ClientGen
