import ClientGen.CommandLine.Run

/-!
# How the steps of a run end

A run is a sequence of steps, each of which may look at files, tell something and end in
trouble.  What is told never decides how a run goes on, so a step is known by its result
and by what it does to the files: `Ends x start result` says that `x`, begun in the state
`start`, gives the result and leaves the state as it was, whatever has been told before.

* `Ends.bind`, `Ends.bind_error`, `Ends.andThen`: one step after another;
* `ends_loadProject`, `ends_loadDocument`, `ends_conclude`: the steps that runs share;
* `outcomeOf_of_ends`: how the whole run ends.
-/

namespace ClientGen.CommandLine

variable {σ α β : Type} {files : Files (StateM σ)} {start : σ}

/-- A step that gives a result and leaves the files as they are. -/
def Ends (x : Run (StateM σ) α) (start : σ) (result : Except Trouble α) : Prop :=
  ∀ console, ∃ told, (x.run.run console).run start = ((result, told), start)

/-! ### Steps in general -/

theorem ends_pure (a : α) : Ends (pure a) start (.ok a) := fun console => ⟨console, rfl⟩

theorem ends_throw (t : Trouble) : Ends (throw t : Run (StateM σ) α) start (.error t) :=
  fun console => ⟨console, rfl⟩

/-- A step after one that has given something. -/
theorem Ends.bind {x : Run (StateM σ) α} {f : α → Run (StateM σ) β} {a : α}
    {result : Except Trouble β} (hx : Ends x start (.ok a)) (hf : Ends (f a) start result) :
    Ends (x >>= f) start result := by
  intro console
  obtain ⟨told, hx⟩ := hx console
  obtain ⟨later, hf⟩ := hf told
  refine ⟨later, ?_⟩
  have hbind : ((x >>= f).run.run console).run start =
      (x.run.run console >>= fun r => (ExceptT.bindCont f r.1).run r.2).run start := rfl
  rw [hbind, StateT.run_bind, hx]
  exact hf

/-- Trouble ends everything. -/
theorem Ends.bind_error {x : Run (StateM σ) α} {f : α → Run (StateM σ) β} {t : Trouble}
    (hx : Ends x start (.error t)) : Ends (x >>= f) start (.error t) := by
  intro console
  obtain ⟨told, hx⟩ := hx console
  refine ⟨told, ?_⟩
  have hbind : ((x >>= f).run.run console).run start =
      (x.run.run console >>= fun r => (ExceptT.bindCont f r.1).run r.2).run start := rfl
  rw [hbind, StateT.run_bind, hx]
  rfl

/-- One step after another, which goes on from what the first has given. -/
theorem Ends.andThen {x : Run (StateM σ) α} {f : α → Run (StateM σ) β}
    {given : Except Trouble α} {later : α → Except Trouble β} (hx : Ends x start given)
    (hf : ∀ a, given = .ok a → Ends (f a) start (later a)) :
    Ends (x >>= f) start (given.bind later) := by
  cases given with
  | error t => exact hx.bind_error
  | ok a => exact hx.bind (hf a rfl)

/-- A step that only looks at the files. -/
theorem ends_lift {action : StateM σ α} {a : α} (h : action.run start = (a, start)) :
    Ends (action : Run (StateM σ) α) start (.ok a) := by
  intro console
  refine ⟨console, ?_⟩
  have hlift : ((action : Run (StateM σ) α).run.run console).run start =
      ((Except.ok (action.run start).1, console), (action.run start).2) := rfl
  rw [hlift, h]

theorem ends_say (line : String) : Ends (say line : Run (StateM σ) Unit) start (.ok ()) :=
  fun console => ⟨{ console with errors := console.errors ++ line ++ "\n" }, rfl⟩

theorem ends_sayAll (lines : List String) :
    Ends (sayAll lines : Run (StateM σ) Unit) start (.ok ()) := by
  induction lines with
  | nil => exact ends_pure ()
  | cons line lines ih => exact (ends_say line).bind ih

/-- A last line changes nothing about the result. -/
theorem Ends.then_say {x : Run (StateM σ) Unit} {result : Except Trouble Unit}
    (hx : Ends x start result) (line : String) :
    Ends (x >>= fun _ => say line) start result := by
  cases result with
  | error t => exact hx.bind_error
  | ok u => exact hx.bind (ends_say line)

/-- Remarks are told, and the value remains. -/
theorem ends_noting (x : Logged α) : Ends (noting x : Run (StateM σ) α) start (.ok x.value) :=
  fun console => ⟨{ console with notices := console.notices ++ x.notices }, rfl⟩

/-! ### Steps that runs share -/

/-- What looking at a file gives, a fault being trouble. -/
theorem ends_onFile {action : StateM σ (Except FileFault α)} {content : Except FileFault α}
    (trouble : FileFault → Trouble) (h : action.run start = (content, start)) :
    Ends (onFile action trouble) start (content.mapError trouble) := by
  refine (ends_lift h).bind ?_
  cases content with
  | ok a => exact ends_pure a
  | error fault => exact ends_throw (trouble fault)

/-- Where no project is described, the defaults hold. -/
theorem ends_loadProject (h : (files.has projectPath).run start = (false, start)) :
    Ends (loadProject files) start (.ok {}) :=
  (ends_lift h).bind (ends_pure ({} : Project))

/-- What comes of a document, given what is read at its path. -/
def loaded (path : String) (lenient : Bool) (content : Except FileFault String) :
    Except Trouble Document :=
  match content with
  | .error fault => .error (.ofFile ("failed to read " ++ path) fault)
  | .ok text =>
    (Document.load (formatOf path) lenient text).value.mapError fun e =>
      ⟨"failed to parse " ++ path, loadCauses e⟩

/-- Loading a document ends with what is in its file. -/
theorem ends_loadDocument {path : String} {content : Except FileFault String} (lenient : Bool)
    (h : (files.read path).run start = (content, start)) :
    Ends (loadDocument files path lenient) start (loaded path lenient content) := by
  have hread := ends_onFile (.ofFile ("failed to read " ++ path)) h
  cases content with
  | error fault => exact hread.bind_error
  | ok text =>
      refine hread.bind ((ends_noting _).bind ?_)
      rw [loaded]
      cases (Document.load (formatOf path) lenient text).value with
      | error e => exact ends_throw _
      | ok d => exact ends_pure d

/-- Whether failures are trouble in the end. -/
def concluded (failures : List Failure) (verdict : String) : Except Trouble Unit :=
  if failures.isEmpty then .ok () else .error ⟨toString failures.length ++ verdict, []⟩

/-- A conclusion is good exactly if nothing failed. -/
theorem concluded_eq_ok_iff {failures : List Failure} {verdict : String} :
    concluded failures verdict = .ok () ↔ failures = [] := by
  cases failures with
  | nil => exact ⟨fun _ => rfl, fun _ => rfl⟩
  | cons f rest => exact ⟨(nomatch ·), (nomatch ·)⟩

/-- Telling the failures ends with the conclusion. -/
theorem ends_conclude (failures : List Failure) (verdict : String) :
    Ends (conclude failures verdict : Run (StateM σ) Unit) start (concluded failures verdict) := by
  refine (ends_sayAll _).bind ?_
  cases failures with
  | nil => exact ends_pure ()
  | cons f rest => exact ends_throw _

/-! ### Whole runs -/

/-- The outcome of a run with some arguments. -/
def outcomeOf (files : Files (StateM σ)) (start : σ) (args : List String) : Outcome × σ :=
  (run files args).run start

/-- What a run is asked to do decides how it ends. -/
theorem exists_outcome {args : List String} {request : Request} {result : Except Trouble Unit}
    (hargs : request? args = some request) (h : Ends (perform files request) start result) :
    ∃ told, outcomeOf files start args = (outcome result told, start) := by
  obtain ⟨told, h⟩ := h {}
  refine ⟨told, ?_⟩
  have hbind : outcomeOf files start args =
      ((perform files request).run.run {} >>= fun r => pure (outcome r.1 r.2)).run start := by
    rw [outcomeOf, run, hargs]
  rw [hbind, StateT.run_bind, h]
  rfl

/-- The exit code is zero exactly if there was no trouble. -/
theorem code_outcome_eq_zero_iff {result : Except Trouble Unit} {told : Console} :
    (outcome result told).code = 0 ↔ result = .ok () := by
  cases result with
  | ok u => exact ⟨fun _ => rfl, fun _ => rfl⟩
  | error t => exact ⟨fun h => absurd h Nat.one_ne_zero, (nomatch ·)⟩

/-- **How a run ends.**  It ends well if what it is asked to do does, and leaves the files
as they were if that does. -/
theorem outcomeOf_of_ends {args : List String} {request : Request} {result : Except Trouble Unit}
    (hargs : request? args = some request) (h : Ends (perform files request) start result) :
    ((outcomeOf files start args).1.code = 0 ↔ result = .ok ()) ∧
      (outcomeOf files start args).2 = start := by
  obtain ⟨told, houtcome⟩ := exists_outcome hargs h
  rw [houtcome]
  exact ⟨code_outcome_eq_zero_iff, rfl⟩

end ClientGen.CommandLine
