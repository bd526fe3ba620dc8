import ClientGen.Proofs.Model.SchemaGraph
import ClientGen.Proofs.Outcome

/-!
# What a composed object is made of

An object takes over the properties of all its parts: of itself, of the members of
its composition, and through references of theirs.  `Merges` is that relation, no
matter in which order the parts are met or how often.  A walk through a schema
meets nothing else, and every property that is flattened out of it is declared by
one of its parts.

* `merges_of_mem_parts`: `parts` lists only parts;
* `exists_part_of_mem_flatten`: where the properties of `flatten` come from;
* `Merges.closed`: what the graph of keys knows about a definition, it knows about
  all parts of it.
-/

namespace ClientGen.Schemas

variable {schemas : Schemas}

/-- A schema takes over what another one in place declares. -/
inductive Merges (schemas : Schemas) : OrRef Schema → Schema → Prop
  | self (s : Schema) : Merges schemas (.inline s) s
  | member {s part : Schema} {m : OrRef Schema} (hm : m ∈ s.allOf)
      (hpart : Merges schemas m part) : Merges schemas (.inline s) part
  | target {path key : String} {s : OrRef Schema} {part : Schema}
      (href : schemas.Refers path key) (hs : schemas.lookup key = some s)
      (hpart : Merges schemas s part) : Merges schemas (.ref path) part

/-- Where nothing is composed, a schema has the properties it declares itself. -/
theorem flatten_of_uncomposed {s : Schema} (h : s.allOf = []) :
    schemas.flatten (.inline s) = .ok (addPart [] s) := by
  rw [flatten, parts, partsFrom, WalkStep.through, h]
  simp [partsFrom, Except.map]

/-- What a step of a walk may yield. -/
def StepYields (schemas : Schemas) : WalkStep → Schema → Prop
  | .enter s, part => schemas.Merges s part
  | .leave s, part => part = s

/-- A walk yields nothing but what its steps may yield. -/
theorem stepYields_of_mem_partsFrom {entered : List String} {agenda : List WalkStep}
    {parts : List Schema} {part : Schema} (h : schemas.partsFrom entered agenda = .ok parts)
    (hpart : part ∈ parts) : ∃ step ∈ agenda, schemas.StepYields step part := by
  fun_induction partsFrom schemas entered agenda generalizing parts with
  | case1 entered =>
      cases h
      cases hpart
  | case2 entered s rest ih =>
      obtain ⟨tail, htail, rfl⟩ := map_eq_ok_iff.mp h
      rcases List.mem_cons.mp hpart with rfl | hpart
      · exact ⟨_, List.mem_cons_self, rfl⟩
      · obtain ⟨step, hstep, hyields⟩ := ih htail hpart
        exact ⟨step, List.mem_cons_of_mem _ hstep, hyields⟩
  | case3 entered s rest ih =>
      obtain ⟨step, hstep, hyields⟩ := ih h hpart
      rcases List.mem_append.mp hstep with hmember | hstep
      · obtain ⟨m, hm, rfl⟩ := List.mem_map.mp hmember
        exact ⟨_, List.mem_cons_self, .member hm hyields⟩
      · rcases List.mem_cons.mp hstep with rfl | hrest
        · exact ⟨_, List.mem_cons_self, hyields ▸ .self s⟩
        · exact ⟨step, List.mem_cons_of_mem _ hrest, hyields⟩
  | case4 entered path rest e _ => cases h
  | case5 entered path rest key _ _ ih =>
      obtain ⟨step, hstep, hyields⟩ := ih h hpart
      exact ⟨step, List.mem_cons_of_mem _ hstep, hyields⟩
  | case6 entered path rest key _ _ _ => cases h
  | case7 entered path rest key hkey _ s hs ih =>
      obtain ⟨step, hstep, hyields⟩ := ih h hpart
      rcases List.mem_cons.mp hstep with rfl | hrest
      · exact ⟨_, List.mem_cons_self, .target (keyOf_eq_ok_iff.mp hkey) hs hyields⟩
      · exact ⟨step, List.mem_cons_of_mem _ hrest, hyields⟩

/-- The parts met on a walk through a schema are parts of it. -/
theorem merges_of_mem_parts {s : OrRef Schema} {parts : List Schema} {part : Schema}
    (h : schemas.parts s = .ok parts) (hpart : part ∈ parts) : schemas.Merges s part := by
  obtain ⟨step, hstep, hyields⟩ := stepYields_of_mem_partsFrom h hpart
  rw [List.mem_singleton.mp hstep] at hyields
  exact hyields

/-! ### Declared properties -/

/-- A property among those that are there, the mark of being required aside. -/
def Declares (out : List FlatProperty) (name : String) (schema : OrRef Schema) : Prop :=
  ∃ p ∈ out, p.name = name ∧ p.schema = schema

/-- Declaring a property adds that one at most. -/
theorem declares_declare {out : List FlatProperty} {name other : String}
    {schema s : OrRef Schema} (h : Declares (declare out other s) name schema) :
    Declares out name schema ∨ (other, s) = (name, schema) := by
  induction out with
  | nil =>
      obtain ⟨p, hp, rfl, rfl⟩ := h
      rw [List.mem_singleton.mp hp]
      exact .inr rfl
  | cons q rest ih =>
      obtain ⟨p, hp, rfl, rfl⟩ := h
      rw [declare] at hp
      split at hp
      · rcases List.mem_cons.mp hp with rfl | hp
        · exact .inr rfl
        · exact .inl ⟨p, List.mem_cons_of_mem _ hp, rfl, rfl⟩
      · rcases List.mem_cons.mp hp with rfl | hp
        · exact .inl ⟨p, List.mem_cons_self, rfl, rfl⟩
        · rcases ih ⟨p, hp, rfl, rfl⟩ with ⟨o, ho, hname, hschema⟩ | heq
          · exact .inl ⟨o, List.mem_cons_of_mem _ ho, hname, hschema⟩
          · exact .inr heq

/-- Marking a property as required declares nothing. -/
theorem declares_require {out : List FlatProperty} {name other : String}
    {schema : OrRef Schema} (h : Declares (require out other) name schema) :
    Declares out name schema := by
  induction out with
  | nil => exact h
  | cons q rest ih =>
      obtain ⟨p, hp, rfl, rfl⟩ := h
      rw [require] at hp
      split at hp
      · rcases List.mem_cons.mp hp with rfl | hp
        · exact ⟨q, List.mem_cons_self, rfl, rfl⟩
        · exact ⟨p, List.mem_cons_of_mem _ hp, rfl, rfl⟩
      · rcases List.mem_cons.mp hp with rfl | hp
        · exact ⟨p, List.mem_cons_self, rfl, rfl⟩
        · obtain ⟨o, ho, hname, hschema⟩ := ih ⟨p, hp, rfl, rfl⟩
          exact ⟨o, List.mem_cons_of_mem _ ho, hname, hschema⟩

/-- A part adds the properties that it declares at most. -/
theorem declares_addPart {out : List FlatProperty} {part : Schema} {name : String}
    {schema : OrRef Schema} (h : Declares (addPart out part) name schema) :
    Declares out name schema ∨ (name, schema) ∈ part.properties := by
  have hrequired : ∀ (required : List String) (out : List FlatProperty),
      Declares (required.foldl require out) name schema → Declares out name schema := by
    intro required
    induction required with
    | nil => exact fun _ h => h
    | cons r rest ih => exact fun out h => declares_require (ih _ h)
  have hproperties : ∀ (properties : List (String × OrRef Schema)) (out : List FlatProperty),
      Declares (properties.foldl (fun out entry => declare out entry.1 entry.2) out) name schema →
        Declares out name schema ∨ (name, schema) ∈ properties := by
    intro properties
    induction properties with
    | nil => exact fun _ h => .inl h
    | cons p rest ih =>
        intro out h
        rcases ih _ h with h | h
        · rcases declares_declare h with h | h
          · exact .inl h
          · exact .inr (h ▸ List.mem_cons_self)
        · exact .inr (List.mem_cons_of_mem _ h)
  exact hproperties _ _ (hrequired _ _ h)

/-- **Where properties come from.**  Each property that is flattened out of a schema is
declared by a part of it. -/
theorem exists_part_of_mem_flatten {s : OrRef Schema} {properties : List FlatProperty}
    {p : FlatProperty} (h : schemas.flatten s = .ok properties) (hp : p ∈ properties) :
    ∃ part, schemas.Merges s part ∧ (p.name, p.schema) ∈ part.properties := by
  obtain ⟨parts, hparts, rfl⟩ := map_eq_ok_iff.mp h
  have hall : ∀ part ∈ parts, schemas.Merges s part := fun _ => merges_of_mem_parts hparts
  have hfold : ∀ (parts : List Schema) (out : List FlatProperty),
      Declares (parts.foldl addPart out) p.name p.schema →
        Declares out p.name p.schema ∨ ∃ part ∈ parts, (p.name, p.schema) ∈ part.properties := by
    intro parts
    induction parts with
    | nil => exact fun _ h => .inl h
    | cons part rest ih =>
        intro out h
        rcases ih _ h with h | ⟨q, hq, h⟩
        · rcases declares_addPart h with h | h
          · exact .inl h
          · exact .inr ⟨part, List.mem_cons_self, h⟩
        · exact .inr ⟨q, List.mem_cons_of_mem _ hq, h⟩
  rcases hfold parts [] ⟨p, hp, rfl, rfl⟩ with ⟨q, hq, _⟩ | ⟨part, hpart, hdeclared⟩
  · cases hq
  · exact ⟨part, hall part hpart, hdeclared⟩

/-! ### Parts and the graph of keys -/

/-- A set of keys that has what the parts of a definition lead to. -/
def Holds (schemas : Schemas) (keys : Set String) (s : OrRef Schema) : Prop :=
  ∀ t key, Part s t → schemas.LeadsTo t key → key ∈ keys

/-- **Parts are covered.**  If a set of keys has what a definition leads to and is closed
under dependence, it has what the properties of all parts of the definition lead to. -/
theorem Merges.closed {s : OrRef Schema} {part : Schema} (h : schemas.Merges s part)
    {keys : Set String} (hs : schemas.Holds keys s)
    (hclosed : ∀ key ∈ keys, ∀ other, schemas.DependsOn key other → other ∈ keys) {name : String}
    {p : OrRef Schema} (hp : (name, p) ∈ part.properties) {key : String}
    (hlead : schemas.LeadsTo p key) : key ∈ keys := by
  -- On the way down the set holds what the schema at hand leads to: inside a definition
  -- because its parts are parts of the whole, behind a reference because it is closed.
  induction h with
  | self s => exact hs p key (.property hp) hlead
  | @member s part m hm _ ih =>
      refine ih ?_ hp
      intro t other ht hother
      cases m with
      | ref path =>
          cases ht
          exact hs _ other (.member hm) hother
      | inline n => exact hs t other (.nested hm ht) hother
  | @target path target s part href htarget _ ih =>
      refine ih ?_ hp
      intro t other ht hother
      have hmem : target ∈ keys := hs _ target (.target path) (.ref href)
      exact hclosed target hmem other ⟨s, t, htarget, ht, hother⟩

/-- What is inside the shape of a definition is part of it. -/
theorem part_of_mem_inner {s t : OrRef Schema} (h : t ∈ s.shape.inner) : Part s t := by
  cases s with
  | ref path => cases h
  | inline s =>
      have hparts : s.allOf.head? = some t ∨ s.items = some t ∨
          s.additional = some (.schema t) := by
        unfold OrRef.shape Schema.shape Schema.typedShape Schema.objectShape at h
        cases hitems : s.items <;> grind [Shape.inner]
      rcases hparts with hbase | hitems | hvalues
      · exact .member (List.mem_of_head? hbase)
      · exact .items hitems
      · exact .values hvalues

/-- Where a definition leads, one of its parts does. -/
theorem LeadsTo.exists_part {s : OrRef Schema} {key : String} (h : schemas.LeadsTo s key) :
    ∃ t, Part s t ∧ schemas.LeadsTo t key := by
  cases h with
  | ref href => exact ⟨_, .target _, .ref href⟩
  | base hshape hbase =>
      exact ⟨_, part_of_mem_inner (by rw [hshape]; exact List.mem_singleton_self _), hbase⟩
  | items hshape hitems =>
      exact ⟨_, part_of_mem_inner (by rw [hshape]; exact List.mem_singleton_self _), hitems⟩
  | values hshape hvalues =>
      exact ⟨_, part_of_mem_inner (by rw [hshape]; exact List.mem_singleton_self _), hvalues⟩

end ClientGen.Schemas
