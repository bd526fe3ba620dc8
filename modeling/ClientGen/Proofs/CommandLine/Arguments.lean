import ClientGen.CommandLine.Arguments
import Mathlib.Data.List.TakeWhile

/-!
# Reading arguments

What the arguments of a run ask for, one argument at a time: a path that is no option
becomes the input, and a switch is put on what has been asked so far.

* `parse?_operand`, `parse?_switch`: one argument;
* `request?_validate`, `request?_generate`: whole lines of arguments.
-/

namespace ClientGen.CommandLine

/-- The path of a file as an argument: it is not empty, and it is no option. -/
structure IsOperand (path : String) : Prop where
  ne_empty : path ≠ ""
  no_option : ∀ c rest, path.toList ≠ '-' :: c :: rest

namespace Grammar

variable {σ : Type} {g : Grammar σ} {p : Parsed σ} {set : σ → σ} {name : String}

/-! ### One argument -/

/-- An operand is read alone, whatever stands behind it. -/
theorem parse?_operand {path : String} (hpath : IsOperand path) (rest : List String) :
    g.parse? p (path :: rest) = (g.operand? p path).bind fun p => g.parse? p rest := by
  rw [parse?]
  split
  next h => exact absurd h (hpath.no_option _ _)
  next h => exact absurd h (hpath.no_option _ _)
  next => rfl

/-- A name by which a command can be told to do something, without a value. -/
structure IsSwitch (g : Grammar σ) (name : String) (set : σ → σ) : Prop where
  declared : ∃ f, g.long? name = some f ∧ f.effect = .switch set ∧ f.repeatable = false ∧
    f.long = name
  no_value : '=' ∉ name.toList
  ne_empty : name.toList ≠ []
  ne_help : name.toList ≠ "help".toList

/-- A name without an equals sign has no value attached. -/
theorem splitValue_of_not_mem {cs : List Char} (h : '=' ∉ cs) :
    splitValue cs = (String.ofList cs, none) := by
  have hall : ∀ c ∈ cs, decide (c ≠ '=') = true := by
    intro c hc
    exact decide_eq_true fun heq => h (heq ▸ hc)
  have htake : cs.takeWhile (· ≠ '=') = cs := List.takeWhile_eq_self_iff.mpr hall
  have hdrop : cs.dropWhile (· ≠ '=') = [] := List.dropWhile_eq_nil_iff.mpr hall
  rw [splitValue, htake, hdrop]

theorem IsSwitch.name? (h : g.IsSwitch name set) (hseen : name ∉ p.seen) :
    g.name? p name.toList =
      some ({ p with asked := set p.asked, seen := name :: p.seen }, none) := by
  obtain ⟨f, hlong, heffect, hrepeat, rfl⟩ := h.declared
  have huse : use? p f (fun a => some (set a)) =
      some { p with asked := set p.asked, seen := f.long :: p.seen } := by
    rw [use?, if_neg hseen, hrepeat]
    rfl
  rw [Grammar.name?, splitValue_of_not_mem h.no_value]
  simp only [String.ofList_toList, if_neg h.ne_help, hlong, Option.bind_eq_bind, Option.bind_some,
    heffect, huse]

/-- A switch is put on what has been asked so far. -/
theorem parse?_switch (h : g.IsSwitch name set) (hseen : name ∉ p.seen)
    (hhelp : p.wantsHelp = false) (rest : List String) :
    g.parse? p (("--" ++ name) :: rest) =
      g.parse? { p with asked := set p.asked, seen := name :: p.seen } rest := by
  obtain ⟨c, cs, hname⟩ := List.exists_cons_of_ne_nil h.ne_empty
  have hdashes : ("--" ++ name).toList = '-' :: '-' :: c :: cs := by simp [hname]
  have hread := h.name? hseen
  rw [hname] at hread
  rw [parse?]
  simp [hdashes, hread, hhelp]

/-- So are several of them, if none is given twice. -/
theorem parse?_switches {switches : List (String × (σ → σ))}
    (h : ∀ s ∈ switches, g.IsSwitch s.1 s.2) (hnodup : (switches.map (·.1)).Nodup)
    (hseen : ∀ s ∈ switches, s.1 ∉ p.seen) (hhelp : p.wantsHelp = false) :
    ∃ seen, g.parse? p (switches.map fun s => "--" ++ s.1) =
      some { p with asked := switches.foldl (fun asked s => s.2 asked) p.asked, seen } := by
  induction switches generalizing p with
  | nil => exact ⟨p.seen, rfl⟩
  | cons s rest ih =>
      obtain ⟨hs, hnodup⟩ := List.nodup_cons.mp hnodup
      have hrest : ∀ t ∈ rest, t.1 ∉ s.1 :: p.seen := by
        intro t ht hmem
        rcases List.mem_cons.mp hmem with heq | hmem
        · exact hs (List.mem_map.mpr ⟨t, ht, heq⟩)
        · exact hseen t (List.mem_cons_of_mem _ ht) hmem
      obtain ⟨seen, hparse⟩ := ih (p := { p with asked := s.2 p.asked, seen := s.1 :: p.seen })
        (fun t ht => h t (List.mem_cons_of_mem _ ht)) hnodup hrest hhelp
      refine ⟨seen, ?_⟩
      rw [List.map_cons, parse?_switch (h s List.mem_cons_self) (hseen s List.mem_cons_self) hhelp,
        hparse, List.foldl_cons]

end Grammar

/-! ### Lines of arguments -/

variable {path : String}

theorem path?_of_isOperand (hpath : IsOperand path) : path? path = some path := by
  simp [path?, hpath.ne_empty]

/-- The arguments that ask for a validation. -/
def validateArgs (path : String) (lenient : Bool) : List String :=
  ["validate", path] ++ if lenient then ["--allow-parse-errors"] else []

/-- The arguments that ask for a client, which may be for a look at it only and may end
at the first failure. -/
def generateArgs (path : String) (lenient dryRun failFast : Bool) : List String :=
  ["generate", path] ++ (if dryRun then ["--dry-run"] else [])
    ++ (if failFast then ["--fail-fast"] else [])
    ++ if lenient then ["--allow-parse-errors"] else []

/-- What the switches of a validation do. -/
def validateSwitches (lenient : Bool) :
    List (String × (Option String × Bool → Option String × Bool)) :=
  if lenient then [("allow-parse-errors", fun r => (r.1, true))] else []

/-- What the switches of a client do. -/
def generateSwitches (lenient dryRun failFast : Bool) :
    List (String × (GenerateRequest → GenerateRequest)) :=
  (if dryRun then [("dry-run", fun r => { r with dryRun := true })] else [])
    ++ (if failFast then [("fail-fast", fun r => { r with failFast := true })] else [])
    ++ if lenient then [("allow-parse-errors", fun r => { r with allowParseErrors := true })]
      else []

/-- What may be turned on for a validation is a switch of its grammar. -/
theorem isSwitch_of_mem_validateSwitches {lenient : Bool} :
    ∀ s ∈ validateSwitches lenient, validateGrammar.IsSwitch s.1 s.2 := by
  intro s hs
  simp only [validateSwitches, List.mem_ite_nil_right, List.mem_singleton] at hs
  obtain ⟨_, rfl⟩ := hs
  exact ⟨⟨_, rfl, rfl, rfl, rfl⟩, by decide, by decide, by decide⟩

/-- What may be turned on for a generation is a switch of its grammar. -/
theorem isSwitch_of_mem_generateSwitches {lenient dryRun failFast : Bool} :
    ∀ s ∈ generateSwitches lenient dryRun failFast, generateGrammar.IsSwitch s.1 s.2 := by
  intro s hs
  simp only [generateSwitches, List.mem_append, List.mem_ite_nil_right, List.mem_singleton] at hs
  rcases hs with (⟨_, rfl⟩ | ⟨_, rfl⟩) | ⟨_, rfl⟩
  all_goals exact ⟨⟨_, rfl, rfl, rfl, rfl⟩, by decide, by decide, by decide⟩

/-- No switch is given twice. -/
theorem nodup_generateSwitches (lenient dryRun failFast : Bool) :
    ((generateSwitches lenient dryRun failFast).map (·.1)).Nodup := by
  cases lenient <;> cases dryRun <;> cases failFast <;> decide

/-- **A validation.**  Its arguments ask for what they say. -/
theorem request?_validate (hpath : IsOperand path) (lenient : Bool) :
    request? (validateArgs path lenient) = some (.validate path lenient) := by
  have hcommand : request? (validateArgs path lenient) =
      validateGrammar.request? "validate" (none, false) (fun r => r.1.map (.validate · r.2))
        (path :: (validateSwitches lenient).map fun s => "--" ++ s.1) := by
    cases lenient <;> rfl
  have hoperand : validateGrammar.operand? { asked := (none, false) } path =
      some { asked := (some path, false), hasOperand := true } := by
    simp [Grammar.operand?, validateGrammar, inputOperand, path?_of_isOperand hpath]
  have hnodup : ((validateSwitches lenient).map (·.1)).Nodup := by cases lenient <;> decide
  obtain ⟨seen, hparse⟩ := Grammar.parse?_switches
    (p := ⟨(some path, false), [], true, false⟩) isSwitch_of_mem_validateSwitches hnodup
    (fun _ _ => List.not_mem_nil) rfl
  rw [hcommand, Grammar.request?, Grammar.parse?_operand hpath, hoperand, Option.bind_some, hparse]
  cases lenient <;> rfl

/-- **A client.**  So do those of a client. -/
theorem request?_generate (hpath : IsOperand path) (lenient dryRun failFast : Bool) :
    request? (generateArgs path lenient dryRun failFast) =
      some (.generate { input := some path, allowParseErrors := lenient, dryRun, failFast }) := by
  have hcommand : request? (generateArgs path lenient dryRun failFast) =
      generateGrammar.request? "generate" {} (some <| .generate ·)
        (path :: (generateSwitches lenient dryRun failFast).map fun s => "--" ++ s.1) := by
    cases lenient <;> cases dryRun <;> cases failFast <;> rfl
  have hoperand : generateGrammar.operand? { asked := {} } path =
      some { asked := { input := some path }, hasOperand := true } := by
    simp [Grammar.operand?, generateGrammar, path?_of_isOperand hpath]
  obtain ⟨seen, hparse⟩ := Grammar.parse?_switches
    (p := ⟨{ input := some path }, [], true, false⟩) isSwitch_of_mem_generateSwitches
    (nodup_generateSwitches lenient dryRun failFast)
    (fun _ _ => List.not_mem_nil) rfl
  rw [hcommand, Grammar.request?, Grammar.parse?_operand hpath, hoperand, Option.bind_some, hparse]
  cases lenient <;> cases dryRun <;> cases failFast <;> rfl

end ClientGen.CommandLine
