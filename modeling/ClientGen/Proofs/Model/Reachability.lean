import ClientGen.Proofs.Model.SchemaGraph
import ClientGen.Proofs.NameSet
import Mathlib.Logic.Relation
import Mathlib.Order.Bounds.Basic

/-!
# Discovery is reachability

`reach` visits keys one by one.  A key is recorded before its definition has been
looked at, so the keys found so far need not be closed under dependence: what they
depend on is either found as well or still to be visited (`Frontier`).  Each round
keeps that, and when nothing is left to visit, the keys found are closed.

* `mem_reach_iff`: `reach` finds the keys on the paths of the graph;
* `mem_discover_iff`: an endpoint needs the keys that can be reached from one of
  the schemas it uses;
* `discover_isLeast`: these are the least set that has the keys its schemas lead to
  and every key that one of its own definitions leads to.
-/

namespace ClientGen

open Relation

namespace Schemas

variable {schemas : Schemas} {found todo : List String} {key other : String}

/-- Dependence leads to declared keys. -/
theorem DependsOn.declared (h : schemas.DependsOn key other) : other ∈ schemas.keys := by
  obtain ⟨_, _, _, _, hlead⟩ := h
  exact hlead.declared

/-- What has been found stays found. -/
theorem mem_reach_of_mem_found (h : key ∈ found) : key ∈ schemas.reach found todo := by
  fun_induction reach schemas found todo with
  | case1 found => exact h
  | case2 found next rest _ ih => exact ih h
  | case3 found next rest _ _ ih => exact ih h
  | case4 found next rest _ s _ ih => exact ih (List.mem_cons_of_mem _ h)

/-- What is to be visited will be found if it is declared. -/
theorem mem_reach_of_mem_todo (h : key ∈ todo) (hdeclared : key ∈ schemas.keys) :
    key ∈ schemas.reach found todo := by
  fun_induction reach schemas found todo with
  | case1 found => cases h
  | case2 found next rest hnext ih =>
      rcases List.mem_cons.mp h with rfl | h
      · exact mem_reach_of_mem_found hnext
      · exact ih h
  | case3 found next rest _ hs ih =>
      rcases List.mem_cons.mp h with rfl | h
      · have hsome := lookup_isSome_iff_mem_keys.mpr hdeclared
        rw [hs] at hsome
        cases hsome
      · exact ih h
  | case4 found next rest _ s hs ih =>
      rcases List.mem_cons.mp h with rfl | h
      · exact mem_reach_of_mem_found List.mem_cons_self
      · exact ih (List.mem_append_right _ h)

/-- **Soundness.**  Only what was found before and what can be reached is found. -/
theorem reach_sound (h : key ∈ schemas.reach found todo) :
    key ∈ found ∨ ∃ start ∈ todo, start ∈ schemas.keys ∧
      ReflTransGen schemas.DependsOn start key := by
  fun_induction reach schemas found todo with
  | case1 found => exact .inl h
  | case2 found next rest _ ih =>
      rcases ih h with hfound | ⟨start, hstart, hpath⟩
      · exact .inl hfound
      · exact .inr ⟨start, List.mem_cons_of_mem _ hstart, hpath⟩
  | case3 found next rest _ _ ih =>
      rcases ih h with hfound | ⟨start, hstart, hpath⟩
      · exact .inl hfound
      · exact .inr ⟨start, List.mem_cons_of_mem _ hstart, hpath⟩
  | case4 found next rest _ s hs ih =>
      have hnext : next ∈ schemas.keys := lookup_isSome_iff_mem_keys.mp (by simp [hs])
      rcases ih h with hfound | ⟨start, hstart, hdeclared, hpath⟩
      · rcases List.mem_cons.mp hfound with rfl | hfound
        · exact .inr ⟨key, List.mem_cons_self, hnext, .refl⟩
        · exact .inl hfound
      · rcases List.mem_append.mp hstart with hedge | hrest
        · have hstep : schemas.DependsOn next start := dependsOn_iff.mpr ⟨s, hs, hedge⟩
          exact .inr ⟨next, List.mem_cons_self, hnext, .head hstep hpath⟩
        · exact .inr ⟨start, List.mem_cons_of_mem _ hrest, hdeclared, hpath⟩

/-- Whatever a found key depends on is found or still to be visited. -/
def Frontier (schemas : Schemas) (found todo : List String) : Prop :=
  ∀ key ∈ found, ∀ other, schemas.DependsOn key other → other ∈ found ∨ other ∈ todo

/-- A key that was found before, or is not declared, can be passed over. -/
theorem Frontier.skip {next : String} {rest : List String}
    (h : schemas.Frontier found (next :: rest)) (hskip : next ∈ schemas.keys → next ∈ found) :
    schemas.Frontier found rest := by
  intro key hkey other hstep
  rcases h key hkey other hstep with hfound | htodo
  · exact .inl hfound
  · rcases List.mem_cons.mp htodo with rfl | hrest
    · exact .inl (hskip hstep.declared)
    · exact .inr hrest

/-- A new key is recorded, and what it depends on is to be visited. -/
theorem Frontier.visit {next : String} {rest : List String} {s : OrRef Schema}
    (h : schemas.Frontier found (next :: rest)) (hs : schemas.lookup next = some s) :
    schemas.Frontier (next :: found) (schemas.definitionSeeds s ++ rest) := by
  intro key hkey other hstep
  rcases List.mem_cons.mp hkey with rfl | hkey
  · obtain ⟨t, ht, hseed⟩ := dependsOn_iff.mp hstep
    rw [hs] at ht
    cases ht
    exact .inr (List.mem_append_left _ hseed)
  · rcases h key hkey other hstep with hfound | htodo
    · exact .inl (List.mem_cons_of_mem _ hfound)
    · rcases List.mem_cons.mp htodo with rfl | hrest
      · exact .inl List.mem_cons_self
      · exact .inr (List.mem_append_right _ hrest)

/-- **Closure.**  In the end nothing is left of the frontier. -/
theorem reach_closed (hfrontier : schemas.Frontier found todo)
    (h : key ∈ schemas.reach found todo) (hstep : schemas.DependsOn key other) :
    other ∈ schemas.reach found todo := by
  fun_induction reach schemas found todo with
  | case1 found => exact (hfrontier key h other hstep).resolve_right List.not_mem_nil
  | case2 found next rest hnext ih => exact ih (hfrontier.skip fun _ => hnext) h
  | case3 found next rest _ hs ih =>
      refine ih (hfrontier.skip fun hdeclared => ?_) h
      have hsome := lookup_isSome_iff_mem_keys.mpr hdeclared
      rw [hs] at hsome
      cases hsome
  | case4 found next rest _ s hs ih => exact ih (hfrontier.visit hs) h

/-- **Reachability.**  From an empty start, `reach` finds the keys on the paths that
begin at a declared key of the list. -/
theorem mem_reach_iff :
    key ∈ schemas.reach [] todo ↔
      ∃ start ∈ todo, start ∈ schemas.keys ∧ ReflTransGen schemas.DependsOn start key := by
  constructor
  · intro h
    exact (reach_sound h).resolve_left List.not_mem_nil
  · rintro ⟨start, hstart, hdeclared, hpath⟩
    have hfrontier : schemas.Frontier [] todo := fun _ h => absurd h List.not_mem_nil
    induction hpath with
    | refl => exact mem_reach_of_mem_todo hstart hdeclared
    | tail _ hstep ih => exact reach_closed hfrontier ih hstep

/-- A key can be reached from a schema: by a path from the key the schema leads to. -/
def Reaches (schemas : Schemas) (s : OrRef Schema) (key : String) : Prop :=
  ∃ start, schemas.LeadsTo s start ∧ ReflTransGen schemas.DependsOn start key

/-- The keys found from the seeds of some schemas. -/
theorem mem_reach_seeds_iff {list : List (OrRef Schema)} :
    key ∈ schemas.reach [] (schemas.seeds list) ↔ ∃ s ∈ list, schemas.Reaches s key := by
  rw [mem_reach_iff]
  constructor
  · rintro ⟨start, hstart, _, hpath⟩
    obtain ⟨s, hs, hlead⟩ := mem_seeds.mp hstart
    exact ⟨s, hs, start, hlead, hpath⟩
  · rintro ⟨s, hs, start, hlead, hpath⟩
    exact ⟨start, mem_seeds.mpr ⟨s, hs, hlead⟩, hlead.declared, hpath⟩

/-- The closure of a schema has the keys that can be reached from it. -/
theorem mem_closure_iff {s : OrRef Schema} :
    key ∈ schemas.closure s ↔ schemas.Reaches s key := by
  rw [closure, NameSet.mem_ofList, mem_reach_seeds_iff]
  simp

/-- Only declared keys can be reached. -/
theorem Reaches.declared {s : OrRef Schema} (h : schemas.Reaches s key) :
    key ∈ schemas.keys := by
  obtain ⟨start, hlead, hpath⟩ := h
  cases hpath with
  | refl => exact hlead.declared
  | tail _ hstep => exact hstep.declared

/-- Every key that can be reached can also be named by a reference. -/
theorem Reaches.refers {s : OrRef Schema} (h : schemas.Reaches s key) :
    schemas.Refers (refPath "schemas" key) key := by
  obtain ⟨start, hlead, hpath⟩ := h
  cases hpath with
  | refl => exact hlead.refers
  | tail _ hstep =>
      obtain ⟨_, _, _, _, hlead⟩ := hstep
      exact hlead.refers

/-- What is reached is closed under dependence. -/
theorem Reaches.trans {s : OrRef Schema} (h : schemas.Reaches s key)
    (hpath : ReflTransGen schemas.DependsOn key other) : schemas.Reaches s other := by
  obtain ⟨start, hlead, hbefore⟩ := h
  exact ⟨start, hlead, hbefore.trans hpath⟩

/-- A set has all keys that some schemas lead to, and with a key all that the parts
of its definition lead to. -/
structure Covers (schemas : Schemas) (roots : Set (OrRef Schema)) (keys : Set String) : Prop where
  roots : ∀ s ∈ roots, ∀ key, schemas.LeadsTo s key → key ∈ keys
  parts : ∀ key ∈ keys, ∀ s t other, schemas.lookup key = some s → Part s t →
    schemas.LeadsTo t other → other ∈ keys

/-- The keys that can be reached from some schemas are the least set that covers them. -/
theorem isLeast_reaches (roots : Set (OrRef Schema)) :
    IsLeast {keys | schemas.Covers roots keys} {key | ∃ s ∈ roots, schemas.Reaches s key} := by
  constructor
  · refine ⟨fun s hs key hlead => ⟨s, hs, key, hlead, .refl⟩, ?_⟩
    rintro key ⟨s, hs, hreach⟩ definition part other hdefinition hpart hlead
    exact ⟨s, hs, hreach.trans (.single ⟨definition, part, hdefinition, hpart, hlead⟩)⟩
  · rintro keys hcovers key ⟨s, hs, start, hlead, hpath⟩
    induction hpath with
    | refl => exact hcovers.roots s hs start hlead
    | tail _ hstep ih =>
        obtain ⟨definition, part, hdefinition, hpart, hlead⟩ := hstep
        exact hcovers.parts _ ih definition part _ hdefinition hpart hlead

/-- The union of the closures of single schemas. -/
def unionOfClosures (schemas : Schemas) (list : List (OrRef Schema)) : NameSet :=
  list.foldl (fun found s => found.union (schemas.closure s)) ∅

/-- It has the keys that can be reached from any of them. -/
theorem mem_unionOfClosures {list : List (OrRef Schema)} :
    key ∈ schemas.unionOfClosures list ↔ ∃ s ∈ list, schemas.Reaches s key := by
  simp [unionOfClosures, NameSet.mem_foldl_union, mem_closure_iff]

theorem ascending_unionOfClosures (list : List (OrRef Schema)) :
    (schemas.unionOfClosures list).Ascending :=
  NameSet.ascending_empty.foldl_union _ list

end Schemas

namespace Endpoint

variable {schemas : Schemas} {e : Endpoint} {key : String}

/-- The schemas an endpoint uses: that of its request, or those of the fields if the
request is a form, those of the parameters, and those of all JSON representations of
its responses. -/
inductive Uses (schemas : Schemas) (e : Endpoint) : OrRef Schema → Prop
  | body {r : Representation} {s : OrRef Schema} (hr : e.request? = some r)
      (hs : r.schema = some s) (hkind : r.kind.flavor = .whole ∨ r.kind.flavor = .unsupported) :
      Uses schemas e s
  | field {r : Representation} {s : OrRef Schema} {properties : List FlatProperty}
      {p : FlatProperty} (hr : e.request? = some r) (hs : r.schema = some s)
      (hkind : r.kind.flavor = .multipart ∨ r.kind.flavor = .urlEncoded)
      (hflat : schemas.flatten s = .ok properties) (hp : p ∈ properties) : Uses schemas e p.schema
  | form {r : Representation} {s : OrRef Schema} {cause : ReferenceError}
      (hr : e.request? = some r) (hs : r.schema = some s)
      (hkind : r.kind.flavor = .multipart ∨ r.kind.flavor = .urlEncoded)
      (hflat : schemas.flatten s = .error cause) : Uses schemas e s
  | parameter {p : Parameter} {s : OrRef Schema} (hp : .inline p ∈ e.operation.parameters)
      (hs : p.schema = some s) : Uses schemas e s
  | response {status mime : String} {r : Response} {media : MediaType} {s : OrRef Schema}
      (hr : (status, .inline r) ∈ e.operation.responses) (hmedia : (mime, media) ∈ r.content)
      (hjson : MediaKind.ofMime mime = .json) (hs : media.schema = some s) : Uses schemas e s

/-- What a request uses, by its kind and by what becomes of the fields of a form. -/
theorem mem_requestSchemas_iff {r : Representation} {t : OrRef Schema} :
    t ∈ requestSchemas schemas r ↔ ∃ s, r.schema = some s ∧
      match r.kind.flavor, schemas.flatten s with
      | .multipart, .ok properties => ∃ p ∈ properties, p.schema = t
      | .urlEncoded, .ok properties => ∃ p ∈ properties, p.schema = t
      | _, _ => t = s := by
  unfold requestSchemas
  cases r.schema with
  | none => simp
  | some s =>
      cases hflavor : r.kind.flavor <;> cases hflat : schemas.flatten s <;> simp [hflat]

/-- The schemas of the JSON representations of a response. -/
theorem mem_responseSchemas_iff {r : Response} {t : OrRef Schema} :
    t ∈ responseSchemas r ↔ ∃ mime media, (mime, media) ∈ r.content ∧
      MediaKind.ofMime mime = .json ∧ media.schema = some t := by
  simp only [responseSchemas, List.mem_filterMap, List.mem_filter, isJsonEntry, beq_iff_eq,
    Prod.exists]
  grind

/-- What a request uses is used by the endpoint. -/
theorem uses_of_mem_requestSchemas {r : Representation} {t : OrRef Schema}
    (hr : e.request? = some r) (h : t ∈ requestSchemas schemas r) : e.Uses schemas t := by
  obtain ⟨s, hs, h⟩ := mem_requestSchemas_iff.mp h
  split at h
  next properties hflavor hflat =>
    obtain ⟨p, hp, rfl⟩ := h
    exact .field hr hs (.inl hflavor) hflat hp
  next properties hflavor hflat =>
    obtain ⟨p, hp, rfl⟩ := h
    exact .field hr hs (.inr hflavor) hflat hp
  next hmultipart hurlEncoded =>
    subst h
    cases hflavor : r.kind.flavor with
    | whole => exact .body hr hs (.inl hflavor)
    | unsupported => exact .body hr hs (.inr hflavor)
    | multipart =>
        cases hflat : schemas.flatten t with
        | ok properties => exact (hmultipart properties hflavor hflat).elim
        | error cause => exact .form hr hs (.inl hflavor) hflat
    | urlEncoded =>
        cases hflat : schemas.flatten t with
        | ok properties => exact (hurlEncoded properties hflavor hflat).elim
        | error cause => exact .form hr hs (.inr hflavor) hflat

/-- The schemas of the request are among those of the endpoint. -/
theorem mem_schemasOf_of_request {r : Representation} {t : OrRef Schema}
    (hr : e.request? = some r) (h : t ∈ requestSchemas schemas r) : t ∈ e.schemasOf schemas := by
  refine List.mem_append_left _ (List.mem_append_left _ ?_)
  simpa [hr] using h

/-- `schemasOf` lists the schemas an endpoint uses. -/
theorem mem_schemasOf_iff {t : OrRef Schema} :
    t ∈ e.schemasOf schemas ↔ e.Uses schemas t := by
  constructor
  · intro h
    rcases List.mem_append.mp h with h | h
    · rcases List.mem_append.mp h with h | h
      · cases hr : e.request? with
        | none => simp [hr] at h
        | some r => exact uses_of_mem_requestSchemas hr (by simpa [hr] using h)
      · obtain ⟨p, hp, hs⟩ := List.mem_filterMap.mp h
        obtain ⟨entry, hentry, hp⟩ := List.mem_filterMap.mp hp
        rw [OrRef.item?_eq_some_iff.mp hp] at hentry
        exact .parameter hentry hs
    · obtain ⟨r, hr, hs⟩ := List.mem_flatMap.mp h
      obtain ⟨⟨status, entry⟩, hentry, hr⟩ := List.mem_filterMap.mp hr
      rw [OrRef.item?_eq_some_iff.mp hr] at hentry
      obtain ⟨mime, media, hmedia, hjson, hs⟩ := mem_responseSchemas_iff.mp hs
      exact .response hentry hmedia hjson hs
  · intro h
    cases h with
    | body hr hs hkind =>
        apply mem_schemasOf_of_request hr
        rcases hkind with hkind | hkind <;> simp [mem_requestSchemas_iff, hs, hkind]
    | field hr hs hkind hflat hp =>
        apply mem_schemasOf_of_request hr
        refine mem_requestSchemas_iff.mpr ⟨_, hs, ?_⟩
        rcases hkind with hkind | hkind <;> rw [hkind, hflat] <;> exact ⟨_, hp, rfl⟩
    | form hr hs hkind hflat =>
        apply mem_schemasOf_of_request hr
        refine mem_requestSchemas_iff.mpr ⟨_, hs, ?_⟩
        rcases hkind with hkind | hkind <;> rw [hkind, hflat]
    | parameter hp hs =>
        refine List.mem_append_left _ (List.mem_append_right _ ?_)
        exact List.mem_filterMap.mpr ⟨_, List.mem_filterMap.mpr ⟨_, hp, rfl⟩, hs⟩
    | response hr hmedia hjson hs =>
        refine List.mem_append_right _ ?_
        exact List.mem_flatMap.mpr ⟨_, List.mem_filterMap.mpr ⟨_, hr, rfl⟩,
          mem_responseSchemas_iff.mpr ⟨_, _, hmedia, hjson, hs⟩⟩

/-- **Discovery.**  An endpoint needs what can be reached from the schemas it uses. -/
theorem mem_discover_iff :
    key ∈ e.discover schemas ↔ ∃ s, e.Uses schemas s ∧ schemas.Reaches s key := by
  rw [discover, NameSet.mem_ofList, Schemas.mem_reach_seeds_iff]
  simp only [mem_schemasOf_iff]

/-- The keys that are discovered are in order. -/
theorem ascending_discover : (e.discover schemas).Ascending := NameSet.ascending_ofList _

/-- **Discovery is reachability.**  The keys an endpoint needs are the least set that
has the keys its schemas lead to and is closed under the parts of definitions.  So all
of them are declared, they are the union of what its schemas reach one by one in any
order, and searching again from the keys that were found finds the same. -/
theorem discover_isLeast (schemas : Schemas) (e : Endpoint) :
    IsLeast {keys | schemas.Covers {s | e.Uses schemas s} keys} {key | key ∈ e.discover schemas} ∧
    (∀ key ∈ e.discover schemas, key ∈ schemas.keys) ∧
    (∀ list : List (OrRef Schema), (∀ s, s ∈ list ↔ e.Uses schemas s) →
      schemas.unionOfClosures list = e.discover schemas) ∧
    schemas.unionOfClosures
      ((e.discover schemas).toList.map fun key => .ref (refPath "schemas" key)) =
        e.discover schemas := by
  refine ⟨?_, ?_, ?_, ?_⟩
  · have hset : {key | key ∈ e.discover schemas} =
        {key | ∃ s ∈ {s | e.Uses schemas s}, schemas.Reaches s key} :=
      Set.ext fun key => mem_discover_iff
    rw [hset]
    exact Schemas.isLeast_reaches _
  · intro key hkey
    obtain ⟨s, _, hreach⟩ := mem_discover_iff.mp hkey
    exact hreach.declared
  · intro list hlist
    refine (Schemas.ascending_unionOfClosures list).eq_of_mem_iff ascending_discover ?_
    intro key
    simp only [Schemas.mem_unionOfClosures, hlist, mem_discover_iff]
  · refine (Schemas.ascending_unionOfClosures _).eq_of_mem_iff ascending_discover ?_
    intro key
    rw [Schemas.mem_unionOfClosures]
    constructor
    · rintro ⟨_, href, start, hlead, hpath⟩
      obtain ⟨found, hfound, rfl⟩ := List.mem_map.mp href
      obtain ⟨s, huses, hreach⟩ := mem_discover_iff.mp hfound
      have hsame : found = start := refPath_inj (Schemas.LeadsTo.refers_of_ref hlead).path_eq
      exact mem_discover_iff.mpr ⟨s, huses, hreach.trans (hsame ▸ hpath)⟩
    · intro hkey
      obtain ⟨s, _, hreach⟩ := mem_discover_iff.mp hkey
      exact ⟨_, List.mem_map_of_mem hkey, key, .ref hreach.refers, .refl⟩

end Endpoint

end ClientGen
