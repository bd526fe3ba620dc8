import ClientGen.Proofs.CommandLine.Arguments
import ClientGen.Proofs.CommandLine.Run
import ClientGen.Proofs.Kotlin.Client

/-!
# The verdict on a document

A document can be validated, looked at as a client that is not written, and generated.
All of these come by the same failures: a validation lists them, a client lists them after
its files, and a client that is to end at the first failure ends there, before anything
is written.

* `ends_validate`, `ends_generate`: how each run ends;
* `validate_agrees_with_generate`: the verdicts of the runs.
-/

namespace ClientGen.CommandLine

variable {σ : Type} {files : Files (StateM σ)} {start : σ} {path : String} {lenient : Bool}
  {content : Except FileFault String}

/-- The failures of a document of which all tags are asked for. -/
def failuresIn (d : Document) : List Failure := (Analyzer.ofDocument d []).value.complete.failures

/-- A document is read, and nothing of it fails. -/
def IsSound (path : String) (lenient : Bool) (content : Except FileFault String) : Prop :=
  ∃ d, loaded path lenient content = .ok d ∧ failuresIn d = []

/-! ### Validation -/

/-- An analysis on the command line is a complete one for all tags. -/
theorem ends_analyzeAll (d : Document) :
    Ends (analyzeAll d : Run (StateM σ) (Analyzer × Analysis)) start
      (.ok ((Analyzer.ofDocument d []).value, (Analyzer.ofDocument d []).value.complete)) := by
  refine (ends_noting _).bind ((ends_noting _).bind ?_)
  rw [Analyzer.analyze_false_value]
  exact ends_pure _

/-- What a validation ends in. -/
def validation (path : String) (lenient : Bool) (content : Except FileFault String) :
    Except Trouble Unit :=
  (loaded path lenient content).bind fun d => concluded (failuresIn d) " failure(s) found"

/-- A validation ends with its verdict and changes no files. -/
theorem ends_validate (hread : (files.read path).run start = (content, start)) :
    Ends (validate files path lenient) start (validation path lenient content) := by
  refine (ends_loadDocument lenient hread).andThen fun d _ => ?_
  refine (ends_say _).bind ((ends_say _).bind ((ends_say _).bind ((ends_sayAll _).bind ?_)))
  refine (ends_analyzeAll d).bind ?_
  refine (ends_say _).bind ((ends_say _).bind ((ends_say _).bind ?_))
  rw [failuresIn]
  exact (ends_conclude _ _).then_say _

/-- The verdict is good exactly if the document is sound. -/
theorem validation_eq_ok_iff : validation path lenient content = .ok () ↔
    IsSound path lenient content := by
  unfold validation IsSound
  exact bind_eq_ok_iff.trans
    (exists_congr fun d => and_congr_right fun _ => concluded_eq_ok_iff)

/-! ### Clients -/

/-- What a client ends in that is not written. -/
def settled (failFast : Bool) (failures : List Failure) : Except Trouble Unit :=
  match failFast, failures with
  | true, f :: _ => .error (.ofFailure f)
  | _, _ => concluded failures " operation(s) or model(s) could not be generated"

/-- Failures are settled well only if there are none. -/
theorem settled_eq_ok_iff {failFast : Bool} {failures : List Failure} :
    settled failFast failures = .ok () ↔ failures = [] := by
  unfold settled
  split
  · exact ⟨(nomatch ·), (nomatch ·)⟩
  · exact concluded_eq_ok_iff

/-- What comes of a request for a client that is not written. -/
def lookedAt (path : String) (lenient failFast : Bool) (content : Except FileFault String) :
    Except Trouble Unit :=
  (loaded path lenient content).bind fun d => settled failFast (failuresIn d)

/-- A generation that is only looked at comes to the same verdict. -/
theorem lookedAt_eq_ok_iff {failFast : Bool} : lookedAt path lenient failFast content = .ok () ↔
    IsSound path lenient content := by
  unfold lookedAt IsSound
  exact bind_eq_ok_iff.trans (exists_congr fun d => and_congr_right fun _ => settled_eq_ok_iff)

/-- The client of a document, if no failure ends it. -/
theorem ends_client (d : Document) (options : Options) :
    Ends (noting (Kotlin.generate options (Analyzer.ofDocument d []).value) :
        Run (StateM σ) (Except Failure Kotlin.Client)) start
      (.ok (settle options.failFast (failuresIn d)
        (Kotlin.completeClient options (Analyzer.ofDocument d []).value))) := by
  unfold failuresIn
  rw [← Kotlin.generate_eq_settle]
  exact ends_noting _

/-- A client is not written if it is only looked at, or if it ends at the first failure and
there is one. -/
theorem ends_generate {dryRun failFast : Bool}
    (hproject : (files.has projectPath).run start = (false, start))
    (hread : (files.read path).run start = (content, start))
    (hunwritten : ∀ d, loaded path lenient content = .ok d →
      dryRun = true ∨ failFast = true ∧ failuresIn d ≠ []) :
    Ends (generate files { input := some path, allowParseErrors := lenient, dryRun, failFast })
      start (lookedAt path lenient failFast content) := by
  have hsettings : GenerateRequest.applyTo
      { input := some path, allowParseErrors := lenient, dryRun, failFast } {} =
        { input := path, allowParseErrors := lenient, dryRun, options := { failFast } } := rfl
  refine (ends_loadProject hproject).bind ?_
  rw [hsettings]
  refine (ends_loadDocument lenient hread).andThen fun d hloaded => ?_
  refine (ends_noting _).bind ((ends_client d _).bind ?_)
  by_cases hended : failFast = true ∧ failuresIn d ≠ []
  · obtain ⟨rfl, hfailures⟩ := hended
    obtain ⟨f, rest, hfailures⟩ := List.exists_cons_of_ne_nil hfailures
    rw [hfailures, settled]
    exact ends_throw _
  · have hclean : failFast = true → failuresIn d = [] := by
      intro hfast
      by_contra hfailures
      exact hended ⟨hfast, hfailures⟩
    have hdryRun : dryRun = true := (hunwritten d hloaded).resolve_right hended
    have hlisted : settled failFast (failuresIn d) =
        concluded (failuresIn d) " operation(s) or model(s) could not be generated" := by
      unfold settled
      split
      next hfailures => rw [hclean rfl] at hfailures; cases hfailures
      next => rfl
    rw [hlisted, settle_clean hclean, hdryRun]
    exact (ends_say _).bind ((ends_sayAll _).bind (ends_conclude _ _))

/-! ### Verdicts -/

/-- **The verdict on a document.**  Where no project is described, a validation of a file, a
look at its client and a look that ends at the first failure all end well or none of them
does.  If an operation or a model of the file fails, a client that is to end at the first
failure ends badly and leaves the files as they were. -/
theorem validate_agrees_with_generate (files : Files (StateM σ)) (start : σ) (path : String)
    (lenient : Bool) (content : Except FileFault String) (hpath : IsOperand path)
    (hproject : (files.has projectPath).run start = (false, start))
    (hread : (files.read path).run start = (content, start)) :
    ((outcomeOf files start (validateArgs path lenient)).1.code = 0 ↔
      (outcomeOf files start (generateArgs path lenient true false)).1.code = 0) ∧
    ((outcomeOf files start (generateArgs path lenient true false)).1.code = 0 ↔
      (outcomeOf files start (generateArgs path lenient true true)).1.code = 0) ∧
    ∀ text d analysis, content = .ok text →
      (Document.load (formatOf path) lenient text).value = .ok d →
      ((Analyzer.ofDocument d []).value.analyze false).value = .ok analysis →
      analysis.failures ≠ [] →
      (outcomeOf files start (generateArgs path lenient false true)).1.code ≠ 0 ∧
      (outcomeOf files start (generateArgs path lenient false true)).2 = start := by
  have hvalidate := outcomeOf_of_ends (request?_validate hpath lenient)
    (ends_validate hread)
  have hlook : ∀ failFast,
      ((outcomeOf files start (generateArgs path lenient true failFast)).1.code = 0 ↔
        lookedAt path lenient failFast content = .ok ()) := fun failFast =>
    (outcomeOf_of_ends (request?_generate hpath lenient true failFast)
      (ends_generate hproject hread fun _ _ => .inl rfl)).1
  refine ⟨?_, ?_, ?_⟩
  · rw [hvalidate.1, hlook, validation_eq_ok_iff, lookedAt_eq_ok_iff]
  · rw [hlook, hlook, lookedAt_eq_ok_iff, lookedAt_eq_ok_iff]
  · intro text d analysis htext hload hanalysis hfailures
    have hloaded : loaded path lenient content = .ok d := by
      rw [htext, loaded, hload]
      rfl
    have hcomplete : failuresIn d ≠ [] := by
      rw [Analyzer.analyze_false_value] at hanalysis
      cases hanalysis
      exact hfailures
    have hunwritten : ∀ e, loaded path lenient content = .ok e →
        false = true ∨ true = true ∧ failuresIn e ≠ [] := by
      intro e he
      cases hloaded.symm.trans he
      exact .inr ⟨rfl, hcomplete⟩
    have hgenerate := outcomeOf_of_ends (request?_generate hpath lenient false true)
      (ends_generate hproject hread hunwritten)
    refine ⟨?_, hgenerate.2⟩
    rw [ne_eq, hgenerate.1, lookedAt_eq_ok_iff]
    rintro ⟨e, he, hsound⟩
    cases hloaded.symm.trans he
    exact hcomplete hsound

/-- A single file that can be read; what is written is put behind each other. -/
def singleFile (path text : String) : Files (StateM (List (String × String))) where
  has asked := return asked == path
  read asked := return if asked = path then .ok text else .error .notFound
  makeDirectory _ := return .ok ()
  write path text := modifyGet fun written => (.ok (), written ++ [(path, text)])

/-- A document with one operation, whose parameter is not declared. -/
def danglingText : String :=
  "openapi: 3.0.3\ninfo:\n  title: Pets\n  version: a\n" ++
    "paths:\n  /pets:\n    get:\n      parameters:\n      - $ref: Limit\n"

/-- Whether a text is a document of which something fails. -/
def isFailing (format : Format) (lenient : Bool) (text : String) : Bool :=
  match (Document.load format lenient text).value with
  | .ok d => !(failuresIn d).isEmpty
  | .error _ => false

/-- A text that fails a check has a document with failures. -/
theorem exists_of_isFailing {format : Format} {text : String}
    (h : isFailing format lenient text = true) :
    ∃ d, (Document.load format lenient text).value = .ok d ∧ failuresIn d ≠ [] := by
  unfold isFailing at h
  split at h
  next d hload => exact ⟨d, hload, by simpa using h⟩
  next => cases h

/-- An operation with a parameter by reference fails it. -/
theorem isFailing_danglingText : isFailing .yaml false danglingText = true := by decide +kernel

/-- A name without an extension is that of a file in YAML. -/
theorem formatOf_withoutExtension : formatOf "a" = .yaml := by
  have hwhole : ∀ separator ∈ ["/", "."], "a".splitOn separator = ["a"] := by
    intro separator hseparator
    rcases List.mem_pair.mp hseparator with rfl | rfl
    all_goals
      rw [String.splitOn, if_neg (by decide), String.splitOnAux, if_neg (by decide),
        if_neg (by decide), String.splitOnAux, if_pos (by decide +kernel)]
      decide +kernel
  have hsaying : ["a"].filter (fun part => !saysNothing part) = ["a"] := by decide
  simp [formatOf, extension?, pathParts, hwhole, hsaying]

/-- The operation of the file fails, and nothing is written. -/
theorem verdicts_on_dangling_operation :
    ((outcomeOf (singleFile "a" danglingText) [] (validateArgs "a" false)).1.code = 0 ↔
      (outcomeOf (singleFile "a" danglingText) [] (generateArgs "a" false true true)).1.code = 0) ∧
    (outcomeOf (singleFile "a" danglingText) [] (generateArgs "a" false false true)).1.code ≠ 0 ∧
    (outcomeOf (singleFile "a" danglingText) [] (generateArgs "a" false false true)).2 = [] := by
  have hpath : IsOperand "a" := ⟨by decide, fun c rest h => by simp at h⟩
  obtain ⟨hdryRun, hfailFast, hwritten⟩ := validate_agrees_with_generate
    (singleFile "a" danglingText) [] "a" false (.ok danglingText) hpath rfl rfl
  obtain ⟨d, hload, hfailures⟩ := exists_of_isFailing isFailing_danglingText
  rw [← formatOf_withoutExtension] at hload
  exact ⟨hdryRun.trans hfailFast,
    hwritten _ d _ rfl hload (Analyzer.analyze_false_value _) hfailures⟩

end ClientGen.CommandLine
