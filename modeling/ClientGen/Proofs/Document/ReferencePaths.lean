import ClientGen.Proofs.Document.Chain
import ClientGen.Proofs.Document.Reference

/-!
# Paths that give names and paths that are refused

Within a section the paths that give a name are those of a short grammar, `IsPathOf`.  Every
other path is refused for something that it misses: `Misses` lists what that may be, and with
which fault it is reported.

* `refName_eq_error_iff`: the paths that are refused;
* `refName_parses_exactly`: all paths.
-/

namespace ClientGen

variable {path part name : String} {fault : PathFault}

/-- A path is that of a name in a section. -/
structure IsPathOf (path part name : String) : Prop where
  path_eq : path = "#/components/" ++ part ++ "/" ++ name
  ne_empty : name ≠ ""
  no_slash : '/' ∉ name.toList

/-- A path is that of no name in a section, and this is why. -/
inductive Misses (path part : String) : PathFault → Prop
  /-- It does not start like a reference. -/
  | foreign (hroot : ∀ rest, path ≠ "#/components/" ++ rest) : Misses path part (.malformed path)
  /-- Nothing follows what would be the section. -/
  | unfinished {found : String} (hpath : path = "#/components/" ++ found)
      (hfound : '/' ∉ found.toList) : Misses path part (.malformed path)
  /-- It leads into another section. -/
  | elsewhere {found name : String} (hpath : path = "#/components/" ++ found ++ "/" ++ name)
      (hfound : '/' ∉ found.toList) (hother : found ≠ part) :
      Misses path part (.wrongSection part found path)
  /-- What stands for the name is empty, or goes on behind another slash. -/
  | nameless {name : String} (hpath : path = "#/components/" ++ part ++ "/" ++ name)
      (hname : name = "" ∨ '/' ∈ name.toList) : Misses path part (.malformed path)

/-- A name is read from its path and from no other. -/
theorem refName_eq_ok_iff_isPathOf (hpart : '/' ∉ part.toList) :
    refName path part = .ok name ↔ IsPathOf path part name := by
  rw [refName_eq_ok_iff hpart, refPath_eq]
  constructor
  · intro h
    obtain ⟨hpath, hne, hslash⟩ := h
    exact ⟨hpath, hne, hslash⟩
  · intro h
    exact ⟨h.path_eq, h.ne_empty, h.no_slash⟩

/-- **Refused paths.**  A path is refused for what it misses. -/
theorem refName_eq_error_iff (hpart : '/' ∉ part.toList) :
    refName path part = .error fault ↔ Misses path part fault := by
  constructor
  · intro h
    rcases path_cases path with hroot | ⟨found, hpath, hfound⟩ | ⟨found, name, hpath, hfound⟩
    · rw [refName_of_foreign hroot] at h
      cases h
      exact .foreign hroot
    · rw [hpath, refName_of_unfinished hfound, ← hpath] at h
      cases h
      exact .unfinished hpath hfound
    · rw [refName_of_section hfound hpath] at h
      by_cases hsame : found = part
      · rw [hsame] at hpath h
        rw [if_neg (not_not_intro rfl)] at h
        split at h
        next hname =>
          cases h
          exact .nameless hpath hname
        · cases h
      · rw [if_pos hsame] at h
        cases h
        exact .elsewhere hpath hfound hsame
  · intro h
    cases h with
    | foreign hroot => exact refName_of_foreign hroot
    | unfinished hpath hfound =>
        rw [hpath]
        exact refName_of_unfinished hfound
    | elsewhere hpath hfound hother => rw [refName_of_section hfound hpath, if_pos hother]
    | nameless hpath hname =>
        rw [refName_of_section hpart hpath, if_neg (not_not_intro rfl), if_pos hname]

/-- A path of no name is refused. -/
theorem exists_fault_of_not_isPathOf (hpart : '/' ∉ part.toList)
    (h : ∀ name, ¬IsPathOf path part name) : ∃ fault, refName path part = .error fault := by
  cases hname : refName path part with
  | ok name => exact (h name ((refName_eq_ok_iff_isPathOf hpart).mp hname)).elim
  | error fault => exact ⟨fault, rfl⟩

/-- **References are parsed exactly.**  A path gives a name in a section exactly if it is the
path of that name, and is refused exactly for what it misses.  A path of no name is always
refused, and a chain of references that meets it fails for its format.  So no two paths give
one name within a section. -/
theorem refName_parses_exactly (hpart : '/' ∉ part.toList) :
    (∀ path name, refName path part = .ok name ↔ IsPathOf path part name) ∧
      (∀ path fault, refName path part = .error fault ↔ Misses path part fault) ∧
      (∀ path, (∀ name, ¬IsPathOf path part name) →
        ∃ fault, refName path part = .error fault ∧
          ∀ (α : Type) (entries : List (String × OrRef α)),
            (Catalog.follow ⟨part, entries⟩ [] (.ref path)).1 = .error (.invalidFormat fault)) ∧
      ∀ path other name, refName path part = .ok name → refName other part = .ok name →
        path = other := by
  refine ⟨fun path name => refName_eq_ok_iff_isPathOf hpart,
    fun path fault => refName_eq_error_iff hpart, fun path h => ?_, ?_⟩
  · obtain ⟨fault, hfault⟩ := exists_fault_of_not_isPathOf hpart h
    refine ⟨fault, hfault, fun α entries => ?_⟩
    rw [Catalog.follow_of_invalid List.not_mem_nil hfault]
  · intro path other name hpath hother
    rw [eq_refPath_of_refName hpath, eq_refPath_of_refName hother]

/-- A path of a pet, and three that give none: into another section, without a name, and with
something behind the name. -/
theorem refName_of_petPaths :
    '/' ∉ "schemas".toList ∧
      refName "#/components/schemas/Pet" "schemas" = .ok "Pet" ∧
      refName "#/components/parameters/Pet" "schemas" =
        .error (.wrongSection "schemas" "parameters" "#/components/parameters/Pet") ∧
      refName "#/components/schemas/" "schemas" = .error (.malformed "#/components/schemas/") ∧
      refName "#/components/schemas/Pet/name" "schemas" =
        .error (.malformed "#/components/schemas/Pet/name") := by
  have hpart : '/' ∉ "schemas".toList := by decide
  have hparameters : "#/components/parameters/Pet" =
      "#/components/" ++ "parameters" ++ "/" ++ "Pet" := by decide
  have hnameless : "#/components/schemas/" = "#/components/" ++ "schemas" ++ "/" ++ "" := by decide
  have hlonger : "#/components/schemas/Pet/name" =
      "#/components/" ++ "schemas" ++ "/" ++ "Pet/name" := by decide
  obtain ⟨hnames, hfaults, _⟩ := refName_parses_exactly hpart
  exact ⟨hpart, (hnames _ _).mpr ⟨by decide, by decide, by decide⟩,
    (hfaults _ _).mpr (.elsewhere hparameters (by decide) (by decide)),
    (hfaults _ _).mpr (.nameless hnameless (.inl rfl)),
    (hfaults _ _).mpr (.nameless hlonger (.inr (by decide)))⟩

end ClientGen
