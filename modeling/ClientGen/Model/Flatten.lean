import ClientGen.Model.Typing

/-!
# The properties of an object with all its parts

An object may be put together from others by composition.  `Schemas.flatten` lists
its properties with those of all its parts, in two steps.

* `parts` walks a schema: the members of a composition come before the schema
  itself, references are followed, and each key is entered once.  The walk keeps
  an agenda of what is still to be done, so that it is plain recursion; it ends
  because either a key is entered for the first time, or the agenda becomes
  smaller.  It fails at the first reference that leads nowhere.
* `addPart` adds the properties that one part declares.  A later declaration
  replaces an earlier one in its place, and a part marks the properties it
  requires among those that are there.
-/

namespace ClientGen

/-- A property with what is known about it so far. -/
structure FlatProperty where
  name : String
  schema : OrRef Schema
  required : Bool := false

/-- What a walk through a composition has to do next. -/
inductive WalkStep where
  /-- Walk this schema. -/
  | enter (s : OrRef Schema)
  /-- All members of this schema have been walked. -/
  | leave (s : Schema)

namespace WalkStep

/-- What a step may cost at most while no key is entered. -/
noncomputable def weight : WalkStep → Nat
  | enter s => sizeOf s
  | leave _ => 1

/-- What an agenda may cost at most while no key is entered. -/
noncomputable def totalWeight : List WalkStep → Nat
  | [] => 0
  | s :: agenda => weight s + totalWeight agenda

theorem totalWeight_append (front rest : List WalkStep) :
    totalWeight (front ++ rest) = totalWeight front + totalWeight rest := by
  induction front with
  | nil => simp [totalWeight]
  | cons s front ih =>
    rw [List.cons_append, totalWeight, totalWeight, ih]
    omega

/-- The steps of a walk through a schema in place, in front of the rest. -/
def through (s : Schema) (rest : List WalkStep) : List WalkStep :=
  s.allOf.map enter ++ leave s :: rest

end WalkStep

namespace Schemas

/-- The declarations that have not been entered. -/
def unentered (schemas : Schemas) (entered : List String) : Schemas :=
  schemas.filter fun entry => entry.1 ∉ entered

/-- What is found under a key is declared under it. -/
theorem mem_of_lookup {schemas : Schemas} {key : String} {s : OrRef Schema}
    (h : schemas.lookup key = some s) : (key, s) ∈ schemas := by
  induction schemas with
  | nil => simp at h
  | cons e rest ih =>
    obtain ⟨k, v⟩ := e
    by_cases hk : key = k
    · subst hk; simp at h; simp [h]
    · have : (key == k) = false := by simpa using hk
      simp only [List.lookup_cons, this] at h
      exact List.mem_cons_of_mem _ (ih h)

/-- Entering a key for the first time leaves fewer keys to enter. -/
theorem unentered_lt {schemas : Schemas} {entered : List String} {key : String}
    {s : OrRef Schema} (hkey : key ∉ entered) (hs : schemas.lookup key = some s) :
    (schemas.unentered (key :: entered)).length < (schemas.unentered entered).length := by
  have hsub : schemas.unentered (key :: entered) =
      (schemas.unentered entered).filter fun entry => entry.1 ≠ key := by
    simp [unentered, List.filter_filter]
  rw [hsub]
  apply List.length_filter_lt_length_iff_exists.2
  exact ⟨(key, s), by simp [unentered, mem_of_lookup hs, hkey], by simp⟩

/-- Entering the members of a composition weighs no more than they do. -/
theorem totalWeight_members (members : List (OrRef Schema)) :
    WalkStep.totalWeight (members.map .enter) ≤ sizeOf members := by
  induction members with
  | nil => simp [WalkStep.totalWeight]
  | cons m members ih =>
    rw [List.map_cons, WalkStep.totalWeight, WalkStep.weight, List.cons.sizeOf_spec]
    omega

/-- Going into a schema makes an agenda lighter. -/
theorem totalWeight_enter (s : Schema) (rest : List WalkStep) :
    WalkStep.totalWeight (WalkStep.through s rest) <
      WalkStep.totalWeight (.enter (.inline s) :: rest) := by
  have h := totalWeight_members s.allOf
  have hs : sizeOf s.allOf + 1 < sizeOf (OrRef.inline s) := by
    cases s
    simp only [OrRef.inline.sizeOf_spec, Schema.mk.sizeOf_spec]
    omega
  rw [WalkStep.through, WalkStep.totalWeight_append, WalkStep.totalWeight,
    WalkStep.totalWeight, WalkStep.weight, WalkStep.weight]
  omega

/-- The parts met on the way through an agenda, each behind its own members. -/
def partsFrom (schemas : Schemas) (entered : List String) :
    List WalkStep → Except ReferenceError (List Schema)
  | [] => .ok []
  | .leave s :: rest => (schemas.partsFrom entered rest).map (s :: ·)
  | .enter (.inline s) :: rest =>
    schemas.partsFrom entered (WalkStep.through s rest)
  | .enter (.ref path) :: rest =>
    match schemas.keyOf path with
    | .error e => .error e
    | .ok key =>
      if _hkey : key ∈ entered then schemas.partsFrom entered rest
      else
        match _hs : schemas.lookup key with
        | none => .error (.unknownModel key)
        | some s => schemas.partsFrom (key :: entered) (.enter s :: rest)
termination_by agenda => ((schemas.unentered entered).length, WalkStep.totalWeight agenda)
decreasing_by
  · exact Prod.Lex.right _ (by rw [WalkStep.totalWeight, WalkStep.weight]; omega)
  · exact Prod.Lex.right _ (totalWeight_enter s rest)
  · exact Prod.Lex.right _ (by
      rw [WalkStep.totalWeight, WalkStep.weight, OrRef.ref.sizeOf_spec]
      omega)
  · exact Prod.Lex.left _ _ (unentered_lt _hkey _hs)

/-- The parts of a schema, each behind its own members. -/
def parts (schemas : Schemas) (s : OrRef Schema) : Except ReferenceError (List Schema) :=
  schemas.partsFrom [] [.enter s]

/-- Declares a property, in place of one of the same name if there is one. -/
def declare (out : List FlatProperty) (name : String) (schema : OrRef Schema) :
    List FlatProperty :=
  match out with
  | [] => [⟨name, schema, false⟩]
  | p :: rest =>
    if p.name = name then ⟨name, schema, false⟩ :: rest else p :: declare rest name schema

/-- Marks the first property of a name as required. -/
def require (out : List FlatProperty) (name : String) : List FlatProperty :=
  match out with
  | [] => []
  | p :: rest =>
    if p.name = name then { p with required := true } :: rest else p :: require rest name

/-- The properties with those of one part more. -/
def addPart (out : List FlatProperty) (s : Schema) : List FlatProperty :=
  s.required.foldl require (s.properties.foldl (fun out (name, p) => declare out name p) out)

/-- The properties of an object with all its parts. -/
def flatten (schemas : Schemas) (s : OrRef Schema) : Except ReferenceError (List FlatProperty) :=
  (schemas.parts s).map (·.foldl addPart [])

end Schemas

end ClientGen
