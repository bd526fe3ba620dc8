import ClientGen.Proofs.Model.Walk
import Mathlib.Data.List.Induction
import Mathlib.Data.List.Nodup

/-!
# Which properties are required

Each part of a composition declares properties and lists names that are required.  The
parts are met one after another: a part that declares a property anew takes the mark of
being required from it, and a part that lists a name marks the property of that name if
it is there by then.  So what counts is whether a part lists the name that is met no
earlier than the last one that declares it.

* `flag?`: the mark of a name, and how `declare`, `require` and `addPart` change it;
* `requiredAt_iff`: the mark after some parts;
* `required_iff`: the mark of a property that is flattened out of a schema.
-/

namespace ClientGen

/-- A schema has a property of a name itself. -/
def Schema.DeclaresName (s : Schema) (name : String) : Prop := name ∈ s.properties.map (·.1)

instance (s : Schema) (name : String) : Decidable (s.DeclaresName name) :=
  inferInstanceAs (Decidable (_ ∈ _))

namespace Schemas

variable {schemas : Schemas} {out : List FlatProperty} {name other : String}

/-- The names of some properties. -/
def names (out : List FlatProperty) : List String := out.map (·.name)

/-- Whether the first property of a name is required, if there is one. -/
def flag? (out : List FlatProperty) (name : String) : Option Bool :=
  (out.find? (·.name = name)).map (·.required)

/-! ### One change -/

/-- Declaring a name adds it if it is new. -/
theorem names_declare (schema : OrRef Schema) :
    names (declare out other schema) =
      if other ∈ names out then names out else names out ++ [other] := by
  induction out with
  | nil => rfl
  | cons p rest ih =>
      rw [declare]
      by_cases hp : p.name = other
      · subst hp
        simp [names]
      · have hne : other ≠ p.name := fun h => hp h.symm
        rw [if_neg hp]
        simp only [names, List.map_cons, List.mem_cons, hne, false_or] at ih ⊢
        rw [ih]
        exact apply_ite (p.name :: ·) _ _ _

theorem names_require : names (require out other) = names out := by
  induction out with
  | nil => rfl
  | cons p rest ih =>
      rw [require]
      split
      · rfl
      · simp only [names, List.map_cons] at ih ⊢
        rw [ih]

/-- A property that is declared is not required, whatever it was before. -/
theorem flag?_declare (schema : OrRef Schema) :
    flag? (declare out other schema) name =
      if other = name then some false else flag? out name := by
  induction out with
  | nil =>
      by_cases h : other = name <;> simp [flag?, declare, h]
  | cons p rest ih =>
      rw [declare]
      by_cases hp : p.name = other
      · subst hp
        by_cases h : p.name = name <;> simp [flag?, h]
      · rw [if_neg hp]
        by_cases h : p.name = name
        · have hne : ¬other = name := fun heq => hp (h.trans heq.symm)
          simp [flag?, h, hne]
        · simpa [flag?, h] using ih

/-- A name that is listed marks its property if there is one. -/
theorem flag?_require :
    flag? (require out other) name =
      if other = name then (flag? out name).map fun _ => true else flag? out name := by
  induction out with
  | nil => simp [flag?, require]
  | cons p rest ih =>
      rw [require]
      by_cases hp : p.name = other
      · subst hp
        by_cases h : p.name = name <;> simp [flag?, h]
      · rw [if_neg hp]
        by_cases h : p.name = name
        · have hne : ¬other = name := fun heq => hp (h.trans heq.symm)
          simp [flag?, h, hne]
        · simpa [flag?, h] using ih

/-! ### One part -/

/-- Declaring a name keeps names apart. -/
theorem nodup_names_declare {schema : OrRef Schema} (h : (names out).Nodup) :
    (names (declare out other schema)).Nodup := by
  rw [names_declare]
  split
  · exact h
  next hnew =>
    rw [List.nodup_append]
    refine ⟨h, List.nodup_singleton _, fun a ha b hb hab => hnew ?_⟩
    rwa [← List.mem_singleton.mp hb, ← hab]

theorem nodup_names_addPart {part : Schema} (h : (names out).Nodup) :
    (names (addPart out part)).Nodup := by
  have hdeclared : ∀ properties : List (String × OrRef Schema), ∀ out, (names out).Nodup →
      (names (properties.foldl (fun out entry => declare out entry.1 entry.2) out)).Nodup := by
    intro properties
    induction properties with
    | nil => exact fun _ h => h
    | cons entry rest ih => exact fun out h => ih _ (nodup_names_declare h)
  have hmarked : ∀ required : List String, ∀ out, (names out).Nodup →
      (names (required.foldl require out)).Nodup := by
    intro required
    induction required with
    | nil => exact fun _ h => h
    | cons r rest ih => exact fun out h => ih _ (names_require.symm ▸ h)
  exact hmarked _ _ (hdeclared _ _ h)

/-- Names that a part declares are not required at first, also where they were before. -/
theorem flag?_foldl_declare (properties : List (String × OrRef Schema)) :
    flag? (properties.foldl (fun out entry => declare out entry.1 entry.2) out) name =
      if name ∈ properties.map (·.1) then some false else flag? out name := by
  induction properties generalizing out with
  | nil => rfl
  | cons entry rest ih =>
      rw [List.foldl_cons, ih, flag?_declare]
      by_cases hrest : name ∈ rest.map (·.1)
      · simp [hrest]
      · by_cases hentry : entry.1 = name
        · simp [hentry]
        · have hne : ¬name = entry.1 := fun h => hentry h.symm
          simp [hrest, hentry, hne]

/-- Names that are required are so if they are declared. -/
theorem flag?_foldl_require (required : List String) :
    flag? (required.foldl require out) name =
      if name ∈ required then (flag? out name).map fun _ => true else flag? out name := by
  induction required generalizing out with
  | nil => rfl
  | cons r rest ih =>
      rw [List.foldl_cons, ih, flag?_require]
      by_cases hr : r = name
      · cases flag? out name <;> simp [hr]
      · have hne : ¬name = r := fun h => hr h.symm
        simp [hr, hne]

/-- **One part.**  A property that the part declares starts anew, and the names that the part
lists are marked. -/
theorem flag?_addPart (part : Schema) :
    flag? (addPart out part) name =
      if part.DeclaresName name then some (decide (name ∈ part.required))
      else if name ∈ part.required then (flag? out name).map fun _ => true
      else flag? out name := by
  have hdeclared : flag? (part.properties.foldl (fun out entry => declare out entry.1 entry.2) out)
      name = if part.DeclaresName name then some false else flag? out name :=
    flag?_foldl_declare part.properties
  have hpart : addPart out part = part.required.foldl require
      (part.properties.foldl (fun out entry => declare out entry.1 entry.2) out) := rfl
  rw [hpart, flag?_foldl_require, hdeclared]
  by_cases hrequired : name ∈ part.required <;> by_cases hdecl : part.DeclaresName name <;>
    simp [hrequired, hdecl]

/-! ### All parts -/

/-- A part lists the name, and no part that is met later declares it. -/
def RequiredAt (parts : List Schema) (name : String) : Prop :=
  ∃ before part after, parts = before ++ part :: after ∧ name ∈ part.required ∧
    ∀ later ∈ after, ¬later.DeclaresName name

/-- A last part requires a name itself, or leaves it as the others require it. -/
theorem requiredAt_concat {parts : List Schema} {last : Schema} :
    RequiredAt (parts ++ [last]) name ↔
      name ∈ last.required ∨ ¬last.DeclaresName name ∧ RequiredAt parts name := by
  constructor
  · rintro ⟨before, part, after, hparts, hrequired, hafter⟩
    rcases List.eq_nil_or_concat after with rfl | ⟨after, final, rfl⟩
    · obtain ⟨_, hpart⟩ := List.append_inj' hparts rfl
      rw [List.singleton_inj.mp hpart]
      exact .inl hrequired
    · rw [List.concat_eq_append] at hparts hafter
      have hsplit : parts ++ [last] = (before ++ part :: after) ++ [final] := by
        rw [hparts, List.append_assoc, List.cons_append]
      obtain ⟨hfront, hlast⟩ := List.append_inj' hsplit rfl
      rw [List.singleton_inj.mp hlast]
      refine .inr ⟨hafter final (by simp), before, part, after, hfront, hrequired, ?_⟩
      exact fun later hlater => hafter later (List.mem_append_left _ hlater)
  · rintro (hrequired | ⟨hlast, before, part, after, rfl, hrequired, hafter⟩)
    · exact ⟨parts, last, [], rfl, hrequired, fun _ h => absurd h List.not_mem_nil⟩
    · refine ⟨before, part, after ++ [last], by simp, hrequired, fun later hlater => ?_⟩
      rcases List.mem_append.mp hlater with hlater | hlater
      · exact hafter later hlater
      · rwa [List.mem_singleton.mp hlater]

/-- **The mark.**  After some parts a property is required if one of them lists its name that
is met no earlier than the last that declares it. -/
theorem flag?_eq_some {parts : List Schema} {required : Bool}
    (h : flag? (parts.foldl addPart []) name = some required) :
    required = true ↔ RequiredAt parts name := by
  induction parts using List.reverseRecOn generalizing required with
  | nil => cases h
  | append_singleton parts last ih =>
      rw [List.foldl_append, List.foldl_cons, List.foldl_nil, flag?_addPart] at h
      rw [requiredAt_concat]
      by_cases hdeclared : last.DeclaresName name
      · rw [if_pos hdeclared] at h
        rw [← Option.some.inj h, decide_eq_true_iff]
        exact ⟨.inl, fun h => h.resolve_right fun h => h.1 hdeclared⟩
      · rw [if_neg hdeclared] at h
        by_cases hlisted : name ∈ last.required
        · rw [if_pos hlisted] at h
          obtain ⟨_, _, rfl⟩ := Option.map_eq_some_iff.mp h
          exact iff_of_true rfl (.inl hlisted)
        · rw [if_neg hlisted] at h
          rw [ih h]
          exact ⟨fun h => .inr ⟨hdeclared, h⟩, fun h => (h.resolve_left hlisted).2⟩

/-- Different properties have different names, so each has the mark of its name. -/
theorem flag?_of_mem {p : FlatProperty} (hnodup : (names out).Nodup) (hp : p ∈ out) :
    flag? out p.name = some p.required := by
  induction out with
  | nil => cases hp
  | cons q rest ih =>
      obtain ⟨hq, hnodup⟩ := List.nodup_cons.mp hnodup
      rcases List.mem_cons.mp hp with rfl | hp
      · simp [flag?]
      · have hne : ¬q.name = p.name := fun h => hq (List.mem_map.mpr ⟨p, hp, h.symm⟩)
        simpa [flag?, hne] using ih hnodup hp

/-- The names of all parts together are different. -/
theorem nodup_names_parts (parts : List Schema) : (names (parts.foldl addPart [])).Nodup := by
  induction parts using List.reverseRecOn with
  | nil => exact List.nodup_nil
  | append_singleton parts last ih =>
      rw [List.foldl_append]
      exact nodup_names_addPart ih

/-- **Required properties.**  A schema that can be flattened merges the parts that are met on
the way.  A property of it is required exactly if a part lists its name that is met no
earlier than the last part that declares it.  So it is required exactly if any part lists
its name, provided that one that lists it is met so late. -/
theorem required_iff (schemas : Schemas) (s : OrRef Schema) {properties : List FlatProperty}
    {p : FlatProperty} (h : schemas.flatten s = .ok properties) (hp : p ∈ properties) :
    ∃ parts, schemas.parts s = .ok parts ∧ (∀ part, part ∈ parts ↔ schemas.Merges s part) ∧
      (p.required = true ↔ RequiredAt parts p.name) ∧
      ((p.required = true ↔ ∃ part, schemas.Merges s part ∧ p.name ∈ part.required) ↔
        ((∃ part, schemas.Merges s part ∧ p.name ∈ part.required) →
          RequiredAt parts p.name)) := by
  obtain ⟨parts, hparts, rfl⟩ := map_eq_ok_iff.mp h
  have hrequired : p.required = true ↔ RequiredAt parts p.name :=
    flag?_eq_some (flag?_of_mem (nodup_names_parts parts) hp)
  refine ⟨parts, hparts, fun part => mem_parts_iff hparts, hrequired, ?_⟩
  rw [hrequired]
  refine ⟨fun h => h.mpr, fun h => ⟨?_, h⟩⟩
  rintro ⟨before, part, after, rfl, hlisted, _⟩
  exact ⟨part, (mem_parts_iff hparts).mp (by simp), hlisted⟩

/-- A schema that is declared and requires its only property. -/
def petSchemas : Schemas :=
  [("Pet", .inline { required := ["name"], properties := [("name", .inline {})] })]

/-- A schema that is put together from the declared one and a property of its own. -/
def dog : OrRef Schema :=
  .inline { allOf := [.ref (refPath "schemas" "Pet")], properties := [("bark", .inline {})] }

/-- A dog requires its name, and may bark. -/
theorem flatten_dog : petSchemas.flatten dog =
    .ok [⟨"name", .inline {}, true⟩, ⟨"bark", .inline {}, false⟩] := by
  have hkey : petSchemas.keyOf (refPath "schemas" "Pet") = .ok "Pet" := by decide
  have hlookup : petSchemas.lookup "Pet" =
      some (.inline { required := ["name"], properties := [("name", .inline {})] }) := rfl
  have hfollow : ∀ rest, petSchemas.partsFrom [] (.enter (.ref (refPath "schemas" "Pet")) :: rest) =
      petSchemas.partsFrom ["Pet"]
        (.enter (.inline { required := ["name"], properties := [("name", .inline {})] }) :: rest) :=
    fun rest => partsFrom_follow hkey List.not_mem_nil hlookup
  rw [flatten, parts, dog]
  simp [partsFrom, WalkStep.through, hfollow, Except.map, addPart, declare, require]

/-- The property is required, for the part that declares it lists it. -/
theorem required_of_dog :
    ∃ parts, petSchemas.parts dog = .ok parts ∧ RequiredAt parts "name" := by
  obtain ⟨parts, hparts, _, hrequired, _⟩ :=
    required_iff petSchemas dog flatten_dog List.mem_cons_self
  exact ⟨parts, hparts, hrequired.mp rfl⟩

/-- A schema put together from one that lists a name and one that declares it. -/
def listedEarly : OrRef Schema :=
  .inline { allOf := [.inline { required := ["name"] },
    .inline { properties := [("name", .inline {})] }] }

/-- A name that is listed before it is declared is not required. -/
theorem not_required_of_listedEarly :
    ∃ properties p, flatten [] listedEarly = .ok properties ∧ p ∈ properties ∧
      ¬(p.required = true ↔ ∃ part, Merges [] listedEarly part ∧ p.name ∈ part.required) := by
  have hflatten : flatten [] listedEarly = .ok [⟨"name", .inline {}, false⟩] := by
    rw [flatten, parts, listedEarly]
    simp [partsFrom, WalkStep.through, Except.map, addPart, declare, require]
  have hlisted : ∃ part, Merges [] listedEarly part ∧ "name" ∈ part.required :=
    ⟨{ required := ["name"] }, .member List.mem_cons_self (.self _), List.mem_cons_self⟩
  exact ⟨_, _, hflatten, List.mem_cons_self, fun h => Bool.false_ne_true (h.mpr hlisted)⟩

end Schemas

end ClientGen
