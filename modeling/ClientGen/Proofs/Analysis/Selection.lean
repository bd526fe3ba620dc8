import ClientGen.Proofs.Analysis.Run

/-!
# Tags that are asked for

Asking for some tags leaves the document, its endpoints and their positions as they are;
only groups are left out, and the models that no other group needs.  What is made of one
endpoint or of one key does not depend on the groups, so the analysis of what is left
is a part of the whole analysis.

* `groupByTag_eq_filter`, `ofDocument_eq_restrict`: what is left out;
* `apis_restrict`, `models_restrict`, `failures_restrict`: the same of the analysis.
-/

namespace ClientGen

/-- If tags are named, these are asked for, and otherwise all are. -/
theorem isAllowed_iff {allow : List String} {tag : String} :
    isAllowed allow tag = true ↔ allow = [] ∨ tag ∈ allow := by
  simp [isAllowed]

/-- The groups for some tags are those of all groups that have them. -/
theorem groupByTag_eq_filter (endpoints : List Endpoint) (allow : List String) :
    groupByTag endpoints allow =
      (groupByTag endpoints []).filter fun g => isAllowed allow g.name.text := by
  have hall : groupByTag endpoints [] =
      (groupFrom 0 [] endpoints).map fun entry => ⟨.ofText entry.1, entry.2⟩ :=
    congrArg (List.map _) (List.filter_eq_self.mpr fun _ _ => rfl)
  rw [hall, List.filter_map, groupByTag]
  rfl

namespace Analyzer

variable {a : Analyzer} {allow : List String}

/-- The same document, of whose groups only those of some tags are left. -/
def restrict (a : Analyzer) (allow : List String) : Analyzer :=
  { a with groups := a.groups.filter fun g => isAllowed allow g.name.text, allow }

/-- An analyzer for some tags is that for all, restricted to them. -/
theorem ofDocument_eq_restrict (d : Document) (allow : List String) :
    (ofDocument d allow).value = (ofDocument d []).value.restrict allow := by
  have hgroups := groupByTag_eq_filter (Endpoint.ofDocument (inlineDocument d).value) allow
  change Analyzer.mk _ _ _ _ = Analyzer.mk _ _ _ _
  rw [hgroups]
  rfl

/-- The groups that are left have the operations they had. -/
theorem apis_restrict :
    (a.restrict allow).complete.apis =
      a.complete.apis.filter fun api => isAllowed allow api.group.name.text := by
  change (a.groups.filter _).map _ = (a.groups.map _).filter _
  rw [List.filter_map]
  rfl

/-- A restriction leaves the keys that get a model in their order. -/
theorem modelKeys_restrict (hall : a.allow = []) :
    (a.restrict allow).modelKeys.Sublist a.modelKeys := by
  have hkeys : a.modelKeys = a.schemas.map (·.1) := by simp [modelKeys, hall]
  rw [hkeys, modelKeys]
  split
  · exact List.Sublist.refl _
  · exact List.filter_sublist

/-- The models that are left stand in the order they had. -/
theorem models_restrict (hall : a.allow = []) :
    (a.restrict allow).complete.models.Sublist a.complete.models :=
  (modelKeys_restrict hall).filterMap _

/-- The failures at some positions are those at each of them. -/
theorem mem_failuresAt_iff {met : List Nat} {f : Failure} :
    f ∈ a.failuresAt met ↔ ∃ i ∈ met, a.failureAt? i = some f := by
  simp [failuresAt, List.mem_filterMap, List.mem_eraseDups]

/-- No failure is new.  Their order may differ, since the groups that are left come by
the endpoints in an order of their own. -/
theorem failures_restrict (hall : a.allow = []) :
    (a.restrict allow).complete.failures ⊆ a.complete.failures := by
  intro f hf
  rcases List.mem_append.mp hf with hposition | hkey
  · obtain ⟨i, hi, hfails⟩ := mem_failuresAt_iff.mp hposition
    obtain ⟨g, hg, hmember⟩ := List.mem_flatMap.mp hi
    have hgroup : g ∈ a.groups := List.mem_of_mem_filter hg
    exact List.mem_append_left _
      (mem_failuresAt_iff.mpr ⟨i, List.mem_flatMap.mpr ⟨g, hgroup, hmember⟩, hfails⟩)
  · have hsub : ((a.restrict allow).failuresOf (a.restrict allow).modelKeys).Sublist
        (a.failuresOf a.modelKeys) := (modelKeys_restrict hall).filterMap _
    exact List.mem_append_right _ (hsub.subset hkey)

end Analyzer

end ClientGen
