import ClientGen.Proofs.Analysis.Selection
import ClientGen.Proofs.Kotlin.Client

/-!
# The client for some of the tags

What is written into a file depends on the group or the model it is for, on the document
and on the options, and on no other group or model.  A client for some of the tags is
therefore made of files of the client for all of them, each with the same text.

* `clientFiles_sublist`: fewer groups and models give fewer files;
* `restriction_selects`: what naming tags does to an analysis and to a client.
-/

namespace ClientGen.Kotlin

variable {options : Options} {a : Analyzer} {allow : List String}

/-- Each file is made of one group or one model, or of the document. -/
theorem clientFiles_sublist {d : Document} {r all : Analysis} (hapis : r.apis.Sublist all.apis)
    (hmodels : r.models.Sublist all.models) :
    (clientFiles options d r).Sublist (clientFiles options d all) := by
  have hwritten : (writtenApis r).Sublist (writtenApis all) := hapis.filter _
  have hinterfaces := hwritten.map (apiFile options)
  have hclasses := hmodels.map (modelFile options)
  exact (hinterfaces.append hclasses).append (List.Sublist.refl _)

/-- A restriction leaves files of the client in their order. -/
theorem files_restrict (hall : a.allow = []) :
    (completeClient options (a.restrict allow)).files.Sublist (completeClient options a).files := by
  have hapis : (a.restrict allow).complete.apis.Sublist a.complete.apis := by
    rw [Analyzer.apis_restrict]
    exact List.filter_sublist
  exact (clientFiles_sublist hapis (Analyzer.models_restrict hall)).map _

/-- The groups that are left, told by the tags that are named. -/
theorem apis_restrict_eq_ite :
    (a.restrict allow).complete.apis = if allow = [] then a.complete.apis
      else a.complete.apis.filter fun api => api.group.name.text ∈ allow := by
  rw [Analyzer.apis_restrict]
  split
  next hnone => exact List.filter_eq_self.mpr fun _ _ => isAllowed_iff.mpr (.inl hnone)
  next hsome =>
    refine List.filter_congr fun api _ => ?_
    rw [Bool.eq_iff_iff, isAllowed_iff, decide_eq_true_iff]
    exact or_iff_right hsome

/-- **Selection.**  If failures are listed there is an analysis and a client for the tags
named, and one for all tags.  The groups of the one are those of the other with a tag that
is named, with the same operations, or all of them if no tag is named.  Its models and its
files are some of the others, in the same order and unchanged, and it has no failure of
its own. -/
theorem restriction_selects (d : Document) (allow : List String) (options : Options) :
    ∃ r all part whole,
      ((Analyzer.ofDocument d allow).value.analyze false).value = .ok r ∧
      ((Analyzer.ofDocument d []).value.analyze false).value = .ok all ∧
      (generate { options with limitApis := allow, failFast := false }
        (Analyzer.ofDocument d allow).value).value = .ok part ∧
      (generate { options with limitApis := [], failFast := false }
        (Analyzer.ofDocument d []).value).value = .ok whole ∧
      r.apis = (if allow = [] then all.apis
        else all.apis.filter fun api => api.group.name.text ∈ allow) ∧
      r.models.Sublist all.models ∧
      r.failures ⊆ all.failures ∧
      part.files.Sublist whole.files ∧
      part.failures ⊆ whole.failures := by
  have hall : (Analyzer.ofDocument d []).value.allow = [] := rfl
  rw [Analyzer.ofDocument_eq_restrict d allow]
  generalize (Analyzer.ofDocument d []).value = a at hall
  exact ⟨_, _, _, _, Analyzer.analyze_false_value _, Analyzer.analyze_false_value _,
    generate_false_value options allow _, generate_false_value options [] _,
    apis_restrict_eq_ite, Analyzer.models_restrict hall, Analyzer.failures_restrict hall,
    files_restrict hall, Analyzer.failures_restrict hall⟩

/-- A document with one operation, which has a tag. -/
def taggedDocument : Document where
  version := "3.0.3"
  info := ⟨"Pets", none, "1"⟩
  paths := [("/pets", { operations := [(.get, { tags := ["pets"] })] })]

/-- If no tag is named, groups are left although their tags are not named. -/
theorem restriction_without_tags :
    ∃ r all, ((Analyzer.ofDocument taggedDocument []).value.analyze false).value = .ok r ∧
      ((Analyzer.ofDocument taggedDocument []).value.analyze false).value = .ok all ∧
      r.apis ≠ all.apis.filter fun api => api.group.name.text ∈ ([] : List String) := by
  refine ⟨_, _, Analyzer.analyze_false_value _, Analyzer.analyze_false_value _, ?_⟩
  intro h
  have hlength := congrArg List.length h
  revert hlength
  decide +kernel

end ClientGen.Kotlin
