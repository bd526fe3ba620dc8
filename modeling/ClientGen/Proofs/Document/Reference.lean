import ClientGen.Document.Reference

/-!
# Which paths are references

`refName` takes a path apart and `refPath` puts one together.  Taking apart goes in three steps:
the front that all references share is taken off, what is left is cut at its first slash, and
the two pieces have to be the section and a name.

* `path_cases`: the forms a path may have, by the step it gets to;
* `refName_of_foreign`, `refName_of_unfinished`, `refName_of_section`: what is read from a path
  of each form;
* `refName_eq_ok_iff`: a path gives a name exactly if it is the path of that name,
  and the name is neither empty nor has a slash;
* `refPath_inj`: within a section, different names have different paths.
-/

namespace ClientGen

variable {path part found name : String}

/-- An item is there exactly if it is given in place. -/
theorem OrRef.item?_eq_some_iff {α : Type u} {entry : OrRef α} {item : α} :
    entry.item? = some item ↔ entry = .inline item := by
  cases entry <;> simp [OrRef.item?]

/-! ### Putting a path together -/

theorem toList_root : "#/components/".toList = componentsRoot := by decide

/-- The path of a name in a section, as it is written. -/
theorem refPath_eq (part name : String) :
    refPath part name = "#/components/" ++ part ++ "/" ++ name := by
  apply String.toList_inj.mp
  simp [refPath, componentsRoot]

/-- Different names have different paths. -/
theorem refPath_inj {other : String} (h : refPath part name = refPath part other) :
    name = other := by
  have hchars := congrArg String.toList h
  simp only [refPath, String.toList_ofList] at hchars
  have htail := List.append_cancel_left (List.append_cancel_left hchars)
  exact String.toList_inj.mp (List.cons.inj htail).2

/-! ### Taking a path apart -/

/-- A text without slashes cannot be cut. -/
theorem cutAtSlash?_eq_none_iff {cs : List Char} : cutAtSlash? cs = none ↔ '/' ∉ cs := by
  induction cs with
  | nil => simp [cutAtSlash?]
  | cons c cs ih =>
      by_cases hc : c = '/'
      · simp [cutAtSlash?, hc]
      · have hslash : '/' ≠ c := fun h => hc h.symm
        simp [cutAtSlash?, hc, hslash, ih]

/-- **Forms of paths.**  A path starts otherwise than a reference, or has no slash behind what
would be the section, or has a section and something behind it. -/
theorem path_cases (path : String) :
    (∀ rest, path ≠ "#/components/" ++ rest) ∨
      (∃ found, path = "#/components/" ++ found ∧ '/' ∉ found.toList) ∨
      ∃ found name, path = "#/components/" ++ found ++ "/" ++ name ∧ '/' ∉ found.toList := by
  by_cases hroot : ∃ rest, path = "#/components/" ++ rest
  · obtain ⟨rest, rfl⟩ := hroot
    cases hcut : cutAtSlash? rest.toList with
    | none => exact .inr (.inl ⟨rest, rfl, cutAtSlash?_eq_none_iff.mp hcut⟩)
    | some pieces =>
        obtain ⟨hrest, hfound⟩ := cutAtSlash?_eq_some_iff.mp hcut
        refine .inr (.inr ⟨String.ofList pieces.1, String.ofList pieces.2, ?_, by simpa⟩)
        apply String.toList_inj.mp
        simp [hrest]
  · exact .inl fun rest hrest => hroot ⟨rest, hrest⟩

/-- What is left behind the front of a reference. -/
theorem afterStart?_root (rest : String) :
    afterStart? componentsRoot ("#/components/" ++ rest).toList = some rest.toList := by
  rw [afterStart?_eq_some_iff, String.toList_append, toList_root]

/-- A path to somewhere else is malformed. -/
theorem refName_of_foreign (h : ∀ rest, path ≠ "#/components/" ++ rest) :
    refName path part = .error (.malformed path) := by
  have hstart : afterStart? componentsRoot path.toList = none := by
    refine Option.eq_none_iff_forall_ne_some.mpr fun rest hrest => h (String.ofList rest) ?_
    apply String.toList_inj.mp
    rw [afterStart?_eq_some_iff.mp hrest, String.toList_append, toList_root, String.toList_ofList]
  rw [refName, hstart]

/-- A path that ends within its section is malformed. -/
theorem refName_of_unfinished (hfound : '/' ∉ found.toList) :
    refName ("#/components/" ++ found) part = .error (.malformed ("#/components/" ++ found)) := by
  have hcut := cutAtSlash?_eq_none_iff.mpr hfound
  simp only [refName, afterStart?_root, hcut]

/-- A path with a section gives what stands behind it, if the section is the right one and
what stands behind it is a name. -/
theorem refName_of_section (hfound : '/' ∉ found.toList)
    (hpath : path = "#/components/" ++ found ++ "/" ++ name) :
    refName path part =
      if found ≠ part then .error (.wrongSection part found path)
      else if name = "" ∨ '/' ∈ name.toList then .error (.malformed path)
      else .ok name := by
  have hcut : cutAtSlash? (found ++ "/" ++ name).toList = some (found.toList, name.toList) := by
    refine cutAtSlash?_eq_some_iff.mpr ⟨?_, hfound⟩
    simp
  have hstart : afterStart? componentsRoot path.toList = some (found ++ "/" ++ name).toList := by
    rw [hpath, String.append_assoc, String.append_assoc, afterStart?_root, String.append_assoc]
  simp only [refName, hstart, hcut]
  simp [String.toList_inj]

/-- The path of a proper name gives that name back. -/
theorem refName_refPath (hpart : '/' ∉ part.toList) (hne : name ≠ "")
    (hslash : '/' ∉ name.toList) : refName (refPath part name) part = .ok name := by
  rw [refName_of_section hpart (refPath_eq part name), if_neg (not_not_intro rfl),
    if_neg (not_or.mpr ⟨hne, hslash⟩)]

/-- **References are exactly the paths of proper names.**  Nothing else in a section
gives a name. -/
theorem refName_eq_ok_iff (hpart : '/' ∉ part.toList) :
    refName path part = .ok name ↔
      path = refPath part name ∧ name ≠ "" ∧ '/' ∉ name.toList := by
  constructor
  · intro h
    have hpath := eq_refPath_of_refName h
    rw [refName_of_section hpart (hpath.trans (refPath_eq part name)),
      if_neg (not_not_intro rfl)] at h
    split at h
    · cases h
    next hname => exact ⟨hpath, not_or.mp hname⟩
  · intro h
    obtain ⟨rfl, hne, hslash⟩ := h
    exact refName_refPath hpart hne hslash

end ClientGen
