import ClientGen.Proofs.Analysis.Orphans
import ClientGen.Proofs.Model.Typing

/-!
# Aliases that lead back to themselves

A declared schema that is no object, composition or enumeration becomes another name for its
type, and the type may mention further such names.  Nothing keeps them from coming round in
a circle: the target of an alias mentions the key its schema leads to, whatever that is.  So
the circles among the aliases of an analysis are those among the declared schemas.

* `Schemas.model_eq_typeAlias_iff`: which keys become aliases;
* `Analyzer.aliasLeads_of_renames`, `Analyzer.renames_of_aliasLeads`: one step;
* `Analyzer.aliases_cycle_iff`: circles.
-/

namespace ClientGen

open Relation

/-- An alias of an analysis mentions the key of another alias in its target. -/
def Analysis.AliasLeads (r : Analysis) (key other : String) : Prop :=
  ∃ m n : AliasModel, .typeAlias m ∈ r.models ∧ .typeAlias n ∈ r.models ∧
    m.name.text = key ∧ n.name.text = other ∧ other ∈ m.target.keys

namespace Schemas

variable {schemas : Schemas} {key other : String}

/-- A schema that becomes another name for its type. -/
structure IsRenaming (s : OrRef Schema) : Prop where
  not_object : s.shape ≠ .object
  not_composed : ∀ base, s.shape ≠ .composed base
  not_enumeration : s.shape ≠ .enumeration

/-- The definition of a key is another name for a type with some key in it. -/
def Renames (schemas : Schemas) (key other : String) : Prop :=
  ∃ s, schemas.lookup key = some s ∧ IsRenaming s ∧ schemas.LeadsTo s other

/-! ### Aliases of declared schemas -/

/-- A renaming becomes the alias of its type. -/
theorem model_of_isRenaming {s : OrRef Schema} {m : AliasModel}
    (hs : schemas.lookup key = some s) (hrenaming : IsRenaming s)
    (hm : schemas.aliasModel key s = .ok m) : schemas.model key = .ok (.typeAlias m) := by
  have hbuilt : (schemas.aliasModel key s).map Model.typeAlias = .ok (.typeAlias m) :=
    map_eq_ok_iff.mpr ⟨m, hm, rfl⟩
  rw [model, hs]
  change schemas.buildModel key s = _
  cases s with
  | ref path => exact hbuilt
  | inline s =>
      rw [buildModel]
      split
      next h => exact absurd h hrenaming.not_enumeration
      next h => exact absurd h hrenaming.not_object
      next base h => exact absurd h (hrenaming.not_composed base)
      · exact hbuilt

/-- **Aliases.**  A key becomes an alias exactly if its definition is a renaming that has a
type. -/
theorem model_eq_typeAlias_iff {m : AliasModel} :
    schemas.model key = .ok (.typeAlias m) ↔
      ∃ s, schemas.lookup key = some s ∧ IsRenaming s ∧ schemas.aliasModel key s = .ok m := by
  constructor
  · intro h
    obtain ⟨s, hs, hbuilds⟩ := builds_of_model h
    cases hbuilds with
    | typeAlias hobject hcomposed henumeration hm =>
        exact ⟨s, hs, ⟨hobject, hcomposed, henumeration⟩, hm⟩
  · rintro ⟨s, hs, hrenaming, hm⟩
    exact model_of_isRenaming hs hrenaming hm

/-- A key that renames something becomes an alias with that key in its target. -/
theorem Renames.exists_model (h : schemas.Renames key other) :
    ∃ m, schemas.model key = .ok (.typeAlias m) ∧ m.name.text = key ∧ other ∈ m.target.keys := by
  obtain ⟨s, hs, hrenaming, hlead⟩ := h
  obtain ⟨t, ht, hmem⟩ := exists_typeOf_of_leadsTo hlead
  have hm : schemas.aliasModel key s = .ok ⟨.ofText key, s.description?, t⟩ :=
    aliasModel_eq_ok_iff.mpr ⟨t, ht, rfl⟩
  exact ⟨_, model_of_isRenaming hs hrenaming hm, rfl, hmem⟩

/-- A key that renames something depends on it. -/
theorem Renames.dependsOn (h : schemas.Renames key other) : schemas.DependsOn key other := by
  obtain ⟨s, hs, _, hlead⟩ := h
  obtain ⟨t, hpart, hlead⟩ := hlead.exists_part
  exact ⟨s, t, hs, hpart, hlead⟩

end Schemas

namespace Analyzer

variable {a : Analyzer} {key other : String} {m : AliasModel}

/-! ### One step -/

/-- The aliases of an analysis are those of the keys that get a model. -/
theorem typeAlias_mem_models_iff :
    .typeAlias m ∈ a.complete.models ↔
      m.name.text ∈ a.modelKeys ∧ a.schemas.model m.name.text = .ok (.typeAlias m) := by
  constructor
  · intro h
    obtain ⟨key, hkey, hmodel⟩ := mem_models_iff.mp h
    have hname : m.name = .ofText key := Schemas.name_of_model hmodel
    rw [hname]
    exact ⟨hkey, hmodel⟩
  · rintro ⟨hkey, hmodel⟩
    exact mem_models_iff.mpr ⟨_, hkey, hmodel⟩

/-- Where an alias leads, the definition of its key does. -/
theorem renames_of_aliasLeads (h : a.complete.AliasLeads key other) :
    key ∈ a.modelKeys ∧ a.schemas.Renames key other := by
  obtain ⟨m, _, hm, _, rfl, _, hmem⟩ := h
  obtain ⟨hkey, hmodel⟩ := typeAlias_mem_models_iff.mp hm
  obtain ⟨s, hs, hrenaming, halias⟩ := Schemas.model_eq_typeAlias_iff.mp hmodel
  obtain ⟨t, ht, htarget⟩ := Schemas.aliasModel_eq_ok_iff.mp halias
  have htype : m.target = t := congrArg AliasModel.target htarget
  rw [htype] at hmem
  exact ⟨hkey, s, hs, hrenaming, Schemas.leadsTo_of_mem_keys ht hmem⟩

/-- What a key with a model renames has a model, too. -/
theorem mem_modelKeys_of_renames (hkey : key ∈ a.modelKeys) (h : a.schemas.Renames key other) :
    other ∈ a.modelKeys :=
  mem_modelKeys_of_dependsOn hkey (.single h.dependsOn)

/-- Where a definition leads, its alias does, if there is an alias as well. -/
theorem aliasLeads_of_renames (hkey : key ∈ a.modelKeys) (h : a.schemas.Renames key other)
    (hother : ∃ next, a.schemas.Renames other next) : a.complete.AliasLeads key other := by
  obtain ⟨m, hm, rfl, hmem⟩ := h.exists_model
  obtain ⟨next, hnext⟩ := hother
  obtain ⟨n, hn, rfl, _⟩ := hnext.exists_model
  have hotherKey := mem_modelKeys_of_renames hkey h
  exact ⟨m, n, typeAlias_mem_models_iff.mpr ⟨hkey, hm⟩,
    typeAlias_mem_models_iff.mpr ⟨hotherKey, hn⟩, rfl, rfl, hmem⟩

/-! ### Circles -/

/-- A chain of definitions that could go on is a chain of aliases. -/
theorem transGen_aliasLeads (hkey : key ∈ a.modelKeys)
    (h : TransGen a.schemas.Renames key other) (hother : ∃ next, a.schemas.Renames other next) :
    TransGen a.complete.AliasLeads key other := by
  induction h using TransGen.head_induction_on with
  | single hstep => exact .single (aliasLeads_of_renames hkey hstep hother)
  | @head key middle hstep hrest ih =>
      have hmiddle : ∃ next, a.schemas.Renames middle next := by
        obtain ⟨next, hnext, _⟩ := TransGen.head'_iff.mp hrest
        exact ⟨next, hnext⟩
      exact .head (aliasLeads_of_renames hkey hstep hmiddle)
        (ih (mem_modelKeys_of_renames hkey hstep))

/-- **Circles.**  An analysis that goes on in spite of failures gives a result, with or
without tags asked for.  An alias in it leads back to itself exactly if its key gets a model
and the definition of the key leads back to it through renamings alone. -/
theorem aliases_cycle_iff (d : Document) (allow : List String) :
    ∃ r, ((ofDocument d allow).value.analyze false).value = .ok r ∧
      ∀ key, TransGen r.AliasLeads key key ↔
        key ∈ (ofDocument d allow).value.modelKeys ∧ TransGen (Schemas.Renames d.schemas) key key := by
  refine ⟨_, (analyze_value _ false).trans settle_false, fun key => ⟨fun h => ?_, ?_⟩⟩
  · obtain ⟨next, hfirst, _⟩ := TransGen.head'_iff.mp h
    refine ⟨(renames_of_aliasLeads hfirst).1, ?_⟩
    rw [← schemas_ofDocument d allow]
    exact TransGen.mono (fun _ _ hstep => (renames_of_aliasLeads hstep).2) _ _ h
  · rintro ⟨hkey, h⟩
    rw [← schemas_ofDocument d allow] at h
    obtain ⟨next, hfirst, _⟩ := TransGen.head'_iff.mp h
    exact transGen_aliasLeads hkey h ⟨next, hfirst⟩

/-- A tree: the list of its branches, which are trees. -/
def tree : Schema :=
  { type := some (.single .array), items := some (.ref "#/components/schemas/Tree") }

/-- A document that declares nothing but trees. -/
def treeDocument : Document where
  version := "3.0.3"
  info := { title := "Trees", version := "1" }
  components := some { schemas := [("Tree", .inline tree)] }

/-- **Trees.**  An analysis may have no failures and yet an alias that is its own target. -/
theorem tree_leads_to_tree :
    ∃ r, ((ofDocument treeDocument []).value.analyze false).value = .ok r ∧ r.failures = [] ∧
      r.AliasLeads "Tree" "Tree" := by
  have hkeys : (ofDocument treeDocument []).value.modelKeys = ["Tree"] := by decide +kernel
  have hgroups : (ofDocument treeDocument []).value.groups = [] := by decide +kernel
  have hrenames : (ofDocument treeDocument []).value.schemas.Renames "Tree" "Tree" := by
    have hshape : (OrRef.inline tree).shape = .array (some (.ref "#/components/schemas/Tree")) :=
      rfl
    have href : (ofDocument treeDocument []).value.schemas.Refers
        "#/components/schemas/Tree" "Tree" :=
      ⟨by decide, by decide, by decide, by decide +kernel⟩
    refine ⟨.inline tree, rfl, ⟨?_, fun base => ?_, ?_⟩, .items hshape (.ref href)⟩
    all_goals
      rw [hshape]
      simp
  have hkey : "Tree" ∈ (ofDocument treeDocument []).value.modelKeys :=
    hkeys ▸ List.mem_singleton_self "Tree"
  obtain ⟨m, hm, _⟩ := hrenames.exists_model
  have hmodel : (ofDocument treeDocument []).value.model "Tree" = .ok (.typeAlias m) := hm
  refine ⟨_, (analyze_value _ false).trans settle_false, ?_,
    aliasLeads_of_renames hkey hrenames ⟨"Tree", hrenames⟩⟩
  rw [complete, failuresOf, hkeys, hgroups]
  simp [hmodel, failuresAt, error?]

end Analyzer

end ClientGen
