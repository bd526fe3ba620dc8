import ClientGen.Model.Discovery
import ClientGen.Proofs.Document.Reference

/-!
# The graph of declared schemas

The keys of a document form a graph.  `LeadsTo` says which key a schema leads to,
`Part` what a definition is made of, and `DependsOn` joins them to the edges of
the graph: a key depends on every key that a part of its definition leads to.

These are relations by themselves; the functions of `Model/Discovery` compute them:

* `seed?_eq_some_iff`: `seed?` finds the key a schema leads to;
* `mem_definitionSeeds_and_memberSeeds`: `definitionSeeds` lists the keys the parts lead
  to;
* `dependsOn_iff`: so the edges are what `reach` follows.
-/

namespace ClientGen.Schemas

variable {schemas : Schemas}

/-- The keys that are declared. -/
def keys (schemas : Schemas) : List String := schemas.map (·.1)

/-- A path refers to a declared key. -/
structure Refers (schemas : Schemas) (path key : String) : Prop where
  path_eq : path = refPath "schemas" key
  ne_empty : key ≠ ""
  no_slash : '/' ∉ key.toList
  declared : key ∈ schemas.keys

/-- A schema leads to the key of the reference that is found by going through bases
of compositions, items of lists and values of maps. -/
inductive LeadsTo (schemas : Schemas) : OrRef Schema → String → Prop
  | ref {path key : String} (href : schemas.Refers path key) : LeadsTo schemas (.ref path) key
  | base {s base : OrRef Schema} {key : String} (hshape : s.shape = .composed base)
      (hbase : LeadsTo schemas base key) : LeadsTo schemas s key
  | items {s items : OrRef Schema} {key : String} (hshape : s.shape = .array (some items))
      (hitems : LeadsTo schemas items key) : LeadsTo schemas s key
  | values {s values : OrRef Schema} {key : String} (hshape : s.shape = .map (some values))
      (hvalues : LeadsTo schemas values key) : LeadsTo schemas s key

/-- The schemas a definition is made of: its properties, the members of its
composition with the parts of those in place, its items and its values.  A bare
reference is made of itself. -/
inductive Part : OrRef Schema → OrRef Schema → Prop
  | target (path : String) : Part (.ref path) (.ref path)
  | property {s : Schema} {name : String} {p : OrRef Schema} (hp : (name, p) ∈ s.properties) :
      Part (.inline s) p
  | member {s : Schema} {m : OrRef Schema} (hm : m ∈ s.allOf) : Part (.inline s) m
  | nested {s m : Schema} {t : OrRef Schema} (hm : .inline m ∈ s.allOf)
      (ht : Part (.inline m) t) : Part (.inline s) t
  | items {s : Schema} {t : OrRef Schema} (ht : s.items = some t) : Part (.inline s) t
  | values {s : Schema} {t : OrRef Schema} (ht : s.additional = some (.schema t)) :
      Part (.inline s) t

/-- A key depends on another: a part of its definition leads there. -/
def DependsOn (schemas : Schemas) (key other : String) : Prop :=
  ∃ s t, schemas.lookup key = some s ∧ Part s t ∧ schemas.LeadsTo t other

/-! ### Keys and references -/

/-- The declared keys are those that can be looked up. -/
theorem lookup_isSome_iff_mem_keys {key : String} :
    (schemas.lookup key).isSome ↔ key ∈ schemas.keys := by
  simp [keys]

/-- The key of a path is the declared one it refers to. -/
theorem keyOf_eq_ok_iff {path key : String} :
    schemas.keyOf path = .ok key ↔ schemas.Refers path key := by
  have hpart : '/' ∉ "schemas".toList := by decide
  constructor
  · intro h
    unfold keyOf at h
    split at h
    · cases h
    next name hname =>
      obtain ⟨hpath, hne, hslash⟩ := (refName_eq_ok_iff hpart).mp hname
      split at h
      next hsome =>
        cases h
        exact ⟨hpath, hne, hslash, lookup_isSome_iff_mem_keys.mp hsome⟩
      · cases h
  · rintro ⟨rfl, hne, hslash, hdeclared⟩
    simp [keyOf, refName_refPath hpart hne hslash, lookup_isSome_iff_mem_keys.mpr hdeclared]

/-- What a schema leads to is declared. -/
theorem LeadsTo.declared {s : OrRef Schema} {key : String} (h : schemas.LeadsTo s key) :
    key ∈ schemas.keys := by
  induction h with
  | ref href => exact href.declared
  | base _ _ ih => exact ih
  | items _ _ ih => exact ih
  | values _ _ ih => exact ih

/-- What a schema leads to can be named by a reference. -/
theorem LeadsTo.refers {s : OrRef Schema} {key : String} (h : schemas.LeadsTo s key) :
    schemas.Refers (refPath "schemas" key) key := by
  induction h with
  | ref href => exact ⟨rfl, href.ne_empty, href.no_slash, href.declared⟩
  | base _ _ ih => exact ih
  | items _ _ ih => exact ih
  | values _ _ ih => exact ih

/-- A reference leads nowhere but to the key it refers to. -/
theorem LeadsTo.refers_of_ref {path key : String} (h : schemas.LeadsTo (.ref path) key) :
    schemas.Refers path key := by
  cases h with
  | ref href => exact href
  | base hshape => cases hshape
  | items hshape => cases hshape
  | values hshape => cases hshape

/-- Only a reference has the shape of one. -/
theorem shape_eq_ref_iff {s : OrRef Schema} {path : String} :
    s.shape = .ref path ↔ s = .ref path := by
  cases s with
  | ref other => simp [OrRef.shape]
  | inline s =>
      simp only [OrRef.shape, reduceCtorEq, iff_false]
      unfold Schema.shape Schema.typedShape Schema.objectShape
      grind

/-- Where a schema leads is settled by its shape. -/
theorem leadsTo_iff {s : OrRef Schema} {key : String} :
    schemas.LeadsTo s key ↔
      match s.shape with
      | .ref path => schemas.Refers path key
      | .composed base => schemas.LeadsTo base key
      | .array (some items) => schemas.LeadsTo items key
      | .map (some values) => schemas.LeadsTo values key
      | _ => False := by
  constructor
  · intro h
    cases h with
    | ref href => exact href
    | base hshape hbase => rw [hshape]; exact hbase
    | items hshape hitems => rw [hshape]; exact hitems
    | values hshape hvalues => rw [hshape]; exact hvalues
  · intro h
    split at h
    next path hshape => rw [shape_eq_ref_iff.mp hshape]; exact .ref h
    next base hshape => exact .base hshape h
    next items hshape => exact .items hshape h
    next values hshape => exact .values hshape h
    · exact h.elim

/-- **Seeds.**  `seed?` finds the key that a schema leads to, if there is one. -/
theorem seed?_eq_some_iff {s : OrRef Schema} {key : String} :
    schemas.seed? s = some key ↔ schemas.LeadsTo s key := by
  fun_induction seed? schemas s with
  | case1 s path hshape =>
      rw [shape_eq_ref_iff.mp hshape, leadsTo_iff]
      change _ ↔ schemas.Refers path key
      rw [← keyOf_eq_ok_iff]
      cases schemas.keyOf path <;> simp [Except.toOption]
  | case2 s base hshape _ ih => simp only [leadsTo_iff (s := s), hshape, ih]
  | case3 s items hshape _ ih => simp only [leadsTo_iff (s := s), hshape, ih]
  | case4 s values hshape _ ih => simp only [leadsTo_iff (s := s), hshape, ih]
  | case5 s href hbase hitems hvalues =>
      rw [leadsTo_iff]
      split
      next path hshape => exact (href path hshape).elim
      next base hshape => exact (hbase base hshape).elim
      next items hshape => exact (hitems items hshape).elim
      next values hshape => exact (hvalues values hshape).elim
      · simp

/-- The keys some schemas lead to. -/
theorem mem_seeds {list : List (OrRef Schema)} {key : String} :
    key ∈ schemas.seeds list ↔ ∃ s ∈ list, schemas.LeadsTo s key := by
  simp [seeds, seed?_eq_some_iff]

/-! ### Definitions -/

/-- The schema of the undeclared properties. -/
theorem values?_eq_some_iff {s : Schema} {t : OrRef Schema} :
    s.values? = some t ↔ s.additional = some (.schema t) := by
  unfold Schema.values?
  grind

/-- The parts of a schema in place. -/
theorem part_inline_iff {s : Schema} {t : OrRef Schema} :
    Part (.inline s) t ↔
      t ∈ s.properties.map (·.2) ∨
        (∃ m ∈ s.allOf, t = m ∨ ∃ n, m = .inline n ∧ Part (.inline n) t) ∨
        s.items = some t ∨ s.values? = some t := by
  constructor
  · intro h
    cases h with
    | property hp => exact .inl (List.mem_map_of_mem hp)
    | member hm => exact .inr (.inl ⟨t, hm, .inl rfl⟩)
    | nested hm ht => exact .inr (.inl ⟨_, hm, .inr ⟨_, rfl, ht⟩⟩)
    | items ht => exact .inr (.inr (.inl ht))
    | values ht => exact .inr (.inr (.inr (values?_eq_some_iff.mpr ht)))
  · rintro (hp | ⟨m, hm, rfl | ⟨n, rfl, ht⟩⟩ | ht | ht)
    · obtain ⟨⟨name, p⟩, hentry, rfl⟩ := List.mem_map.mp hp
      exact .property hentry
    · exact .member hm
    · exact .nested hm ht
    · exact .items ht
    · exact .values (values?_eq_some_iff.mp ht)

/-- **Definitions.**  `definitionSeeds` lists the keys that the parts of a definition
lead to, `memberSeeds` those of the members of a composition and their parts. -/
theorem mem_definitionSeeds_and_memberSeeds {key : String} :
    (∀ s, key ∈ schemas.definitionSeeds s ↔ ∃ t, Part s t ∧ schemas.LeadsTo t key) ∧
    (∀ members, key ∈ schemas.memberSeeds members ↔
      ∃ m ∈ members, schemas.LeadsTo m key ∨
        ∃ n, m = .inline n ∧ ∃ t, Part (.inline n) t ∧ schemas.LeadsTo t key) := by
  apply definitionSeeds.mutual_induct
  · intro path
    rw [definitionSeeds, mem_seeds]
    constructor
    · rintro ⟨s, hs, h⟩
      rw [List.mem_singleton.mp hs] at h
      exact ⟨_, .target path, h⟩
    · rintro ⟨t, ht, h⟩
      cases ht
      exact ⟨_, List.mem_singleton_self _, h⟩
  · intro s ih
    rw [definitionSeeds]
    simp only [List.mem_append, mem_seeds, ih, Option.mem_toList]
    constructor
    · rintro (((⟨t, ht, h⟩ | ⟨m, hm, h | ⟨n, rfl, t, ht, h⟩⟩) | ⟨t, ht, h⟩) | ⟨t, ht, h⟩)
      · exact ⟨t, part_inline_iff.mpr (.inl ht), h⟩
      · exact ⟨m, .member hm, h⟩
      · exact ⟨t, .nested hm ht, h⟩
      · exact ⟨t, .items ht, h⟩
      · exact ⟨t, .values (values?_eq_some_iff.mp ht), h⟩
    · rintro ⟨t, ht, h⟩
      rcases part_inline_iff.mp ht with ht | ⟨m, hm, rfl | ⟨n, rfl, ht⟩⟩ | ht | ht
      · exact .inl (.inl (.inl ⟨t, ht, h⟩))
      · exact .inl (.inl (.inr ⟨_, hm, .inl h⟩))
      · exact .inl (.inl (.inr ⟨_, hm, .inr ⟨n, rfl, t, ht, h⟩⟩))
      · exact .inl (.inr ⟨t, ht, h⟩)
      · exact .inr ⟨t, ht, h⟩
  · simp [memberSeeds]
  · intro path rest ih
    simp only [memberSeeds, List.mem_append, mem_seeds, ih]
    grind
  · intro s rest ihs ih
    simp only [memberSeeds, List.mem_append, mem_seeds, ihs, ih]
    grind

/-- The edges of the graph, as `reach` follows them. -/
theorem dependsOn_iff {key other : String} :
    schemas.DependsOn key other ↔
      ∃ s, schemas.lookup key = some s ∧ other ∈ schemas.definitionSeeds s := by
  simp only [DependsOn, mem_definitionSeeds_and_memberSeeds.1]
  grind

end ClientGen.Schemas
