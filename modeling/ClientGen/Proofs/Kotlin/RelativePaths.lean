import ClientGen.CommandLine.Path
import ClientGen.Proofs.Kotlin.FileNames

/-!
# Files below the output directory

The path of a file is put behind the directory that a client is written to, unless it starts at
the root; then it stands for itself and the directory does not matter.  Each file lies in the
directory of its package, whose dots become slashes.  So a package must not start with a dot,
and the packages of the interfaces and the models do so if nothing stands in front of their
last part.

No path leads up: the dots of a package are gone, the name of a file has none, and one is left
in the extension.

* `joinPath_of_isRelative`, `joinPath_of_not_isRelative`: a path and a directory;
* `liesBelow_joinPath_iff`: which paths stay below every directory;
* `isRelative_rootPath_iff`, `leadsDown_rootPath_iff`: the path of a file in a package;
* `isRelative_paths_iff`: the files of a client.
-/

namespace ClientGen.Kotlin

open CommandLine (joinPath)

variable {base path package name : String}

/-! ### Paths and directories -/

/-- A path that does not start at the root. -/
def IsRelative (path : String) : Prop := path.toList.head? ≠ some '/'

instance (path : String) : Decidable (IsRelative path) := inferInstanceAs (Decidable (_ ≠ _))

/-- A path that only leads down: it does not start at the root, and no two dots stand side by
side in it. -/
structure LeadsDown (path : String) : Prop where
  relative : IsRelative path
  no_ascent : ¬['.', '.'] <:+: path.toList

/-- What stands in front of the paths of the files in a directory. -/
def opened (base : String) : String :=
  if base = "" ∨ base.toList.getLast? = some '/' then base else base ++ "/"

/-- A path that lies below a directory: behind the directory it only leads down. -/
def LiesBelow (base path : String) : Prop := ∃ rest, LeadsDown rest ∧ path = opened base ++ rest

/-- A path is absolute if it starts with a slash. -/
theorem startsWith_slash_iff : path.startsWith "/" = true ↔ ¬IsRelative path := by
  have hslash : "/".toList = ['/'] := by decide
  rw [String.startsWith_string_iff, hslash, IsRelative, not_not]
  constructor
  · rintro ⟨rest, hrest⟩
    rw [← hrest]
    rfl
  · intro h
    obtain ⟨rest, hrest⟩ := List.head?_eq_some_iff.mp h
    exact ⟨rest, hrest.symm⟩

theorem endsWith_slash_iff : base.endsWith "/" = true ↔ base.toList.getLast? = some '/' := by
  have hslash : "/".toList = ['/'] := by decide
  rw [String.endsWith_eq_endsWith_toSlice, String.Slice.endsWith_string_iff, String.copy_toSlice,
    hslash, List.getLast?_eq_some_iff]
  exact ⟨fun ⟨front, h⟩ => ⟨front, h.symm⟩, fun ⟨front, h⟩ => ⟨front, h.symm⟩⟩

/-- A relative path goes on from the directory. -/
theorem joinPath_of_isRelative (h : IsRelative path) (base : String) :
    joinPath base path = opened base ++ path := by
  have hrelative : ¬path.startsWith "/" = true := fun hroot => startsWith_slash_iff.mp hroot h
  have hclosed : (base.isEmpty || base.endsWith "/") = true ↔
      base = "" ∨ base.toList.getLast? = some '/' := by
    rw [Bool.or_eq_true, String.isEmpty_iff, endsWith_slash_iff]
  rw [joinPath, if_neg hrelative, opened]
  by_cases hbase : base = "" ∨ base.toList.getLast? = some '/'
  · rw [if_pos (hclosed.mpr hbase), if_pos hbase]
  · rw [if_neg (mt hclosed.mp hbase), if_neg hbase]

/-- Any other path leaves it. -/
theorem joinPath_of_not_isRelative (h : ¬IsRelative path) (base : String) :
    joinPath base path = path :=
  if_pos (startsWith_slash_iff.mpr h)

/-- **Paths and directories.**  A path stays below every directory exactly if it only leads
down. -/
theorem liesBelow_joinPath_iff : (∀ base, LiesBelow base (joinPath base path)) ↔ LeadsDown path := by
  constructor
  · intro h
    by_cases hrelative : IsRelative path
    · obtain ⟨rest, hrest, heq⟩ := h ""
      rw [joinPath_of_isRelative hrelative] at heq
      rwa [(String.append_right_inj _).mp heq]
    · -- A path from the root is not below a directory that is named otherwise.
      obtain ⟨rest, _, heq⟩ := h "a"
      have hopened : (opened "a").toList = ['a', '/'] := by decide +kernel
      rw [joinPath_of_not_isRelative hrelative] at heq
      refine absurd ?_ hrelative
      rw [IsRelative, heq, String.toList_append, hopened]
      exact fun h => absurd (Option.some.inj h) (by decide)
  · exact fun h base => ⟨path, h, joinPath_of_isRelative h.relative base⟩

/-! ### Files in packages -/

/-- A package whose directory does not start at the root. -/
def StartsInside (package : String) : Prop := ∀ c ∈ package.toList.head?, c ≠ '.' ∧ c ≠ '/'

/-- Only the front of a path says whether it is relative. -/
theorem isRelative_append_iff (hne : name ≠ "") (rest : String) :
    IsRelative (name ++ rest) ↔ IsRelative name := by
  have hchars : name.toList ≠ [] := fun h => hne (String.toList_inj.mp h)
  rw [IsRelative, IsRelative, String.toList_append, List.head?_append_of_ne_nil _ hchars]

/-- The directory of a package has slashes for its dots. -/
theorem toList_directory (package : String) : (SourceFile.directory package).toList =
    package.toList.map fun c => if c = '.' then '/' else c :=
  String.toList_ofList

/-- A directory starts at the root where its package starts with a dot. -/
theorem isRelative_directory_iff : IsRelative (SourceFile.directory package) ↔
    StartsInside package := by
  rw [IsRelative, toList_directory, StartsInside]
  cases package.toList with
  | nil => simp
  | cons c rest =>
      by_cases hdot : c = '.'
      · simp [hdot]
      · simp [hdot]

/-- A file in the directory of a package has a relative path exactly if the directory has. -/
theorem isRelative_rootPath_iff (hname : IsSegment name) :
    IsRelative (rootPath package name) ↔ StartsInside package := by
  rw [rootPath]
  by_cases hempty : SourceFile.directory package = ""
  · have hstarts : StartsInside package := isRelative_directory_iff.mp (hempty ▸ by decide)
    have hrelative : IsRelative name := fun h => hname.no_slash (List.mem_of_head? h)
    rw [if_pos hempty, String.empty_append, isRelative_append_iff hname.ne_empty]
    exact iff_of_true hrelative hstarts
  · rw [if_neg hempty, String.append_assoc, String.append_assoc, isRelative_append_iff hempty,
      isRelative_directory_iff]

/-- Of the dots in its path only that of the extension is left. -/
theorem count_dot_rootPath (hname : IsSegment name) :
    (rootPath package name).toList.count '.' = 1 := by
  have hdirectory : '.' ∉ (SourceFile.directory package).toList := by
    rw [toList_directory]
    intro hc
    obtain ⟨c, _, hc⟩ := List.mem_map.mp hc
    split at hc
    · cases hc
    · next hdot => exact hdot hc
  have hfront : '.' ∉ (if SourceFile.directory package = "" then ""
      else SourceFile.directory package ++ "/").toList := by
    split
    · decide
    · rw [String.toList_append, List.mem_append]
      exact fun h => h.elim hdirectory (by decide)
  rw [rootPath, String.toList_append, String.toList_append, List.count_append, List.count_append,
    List.count_eq_zero.mpr hfront, List.count_eq_zero.mpr hname.no_dot]
  decide +kernel

/-- So it only leads down if it is relative. -/
theorem leadsDown_rootPath_iff (hname : IsSegment name) :
    LeadsDown (rootPath package name) ↔ IsRelative (rootPath package name) := by
  refine ⟨LeadsDown.relative, fun h => ⟨h, fun hdots => ?_⟩⟩
  have hcount := hdots.sublist.count_le '.'
  rw [count_dot_rootPath hname] at hcount
  exact absurd hcount (by decide)

/-! ### All files -/

/-- The packages of interfaces and models start inside if there is anything in front of their
last part. -/
theorem startsInside_append_iff {part : String} (hpart : ¬StartsInside part) :
    StartsInside (package ++ part) ↔ package ≠ "" ∧ StartsInside package := by
  by_cases hempty : package = ""
  · rw [hempty, String.empty_append]
    exact iff_of_false hpart fun h => h.1 rfl
  · have hchars : package.toList ≠ [] := fun h => hempty (String.toList_inj.mp h)
    rw [StartsInside, StartsInside, String.toList_append, List.head?_append_of_ne_nil _ hchars]
    exact (and_iff_right hempty).symm

variable {options : Options} {d : Document} {allow : List String}

/-- The package of the interfaces starts inside if the one it lies in has a name that does. -/
theorem startsInside_apiPackage_iff :
    StartsInside options.apiPackage ↔ options.packageName ≠ "" ∧ StartsInside options.packageName :=
  startsInside_append_iff fun h => (h '.' (by decide +kernel)).1 rfl

/-- The same for the package of the models. -/
theorem startsInside_modelPackage_iff : StartsInside options.modelPackage ↔
    options.packageName ≠ "" ∧ StartsInside options.packageName :=
  startsInside_append_iff fun h => (h '.' (by decide +kernel)).1 rfl

/-- The packages of all files start inside exactly if that of the options does, with something
in front of the parts for interfaces and models where there are any. -/
theorem forall_startsInside_iff (doc : Document) (analysis : Analysis) :
    (∀ f ∈ clientFiles options doc analysis, StartsInside f.package) ↔
      StartsInside options.packageName ∧
      (options.packageName = "" → writtenApis analysis = [] ∧ analysis.models = []) := by
  have hsupport : (∀ f ∈ [holderFile options doc, interceptorFile options doc],
      StartsInside f.package) ↔ StartsInside options.packageName := by
    rw [List.forall_mem_cons, List.forall_mem_singleton]
    exact and_self_iff
  have hapis : (∀ f ∈ (writtenApis analysis).map (apiFile options), StartsInside f.package) ↔
      ∀ api ∈ writtenApis analysis,
        options.packageName ≠ "" ∧ StartsInside options.packageName := by
    rw [List.forall_mem_map]
    exact forall₂_congr fun _ _ => startsInside_apiPackage_iff
  have hmodels : (∀ f ∈ analysis.models.map (modelFile options), StartsInside f.package) ↔
      ∀ m ∈ analysis.models, options.packageName ≠ "" ∧ StartsInside options.packageName := by
    rw [List.forall_mem_map]
    exact forall₂_congr fun _ _ => startsInside_modelPackage_iff
  rw [clientFiles, List.forall_mem_append, List.forall_mem_append, hapis, hmodels, hsupport]
  constructor
  · rintro ⟨⟨hapis, hmodels⟩, hinside⟩
    refine ⟨hinside, fun hempty => ⟨?_, ?_⟩⟩
    · exact List.eq_nil_iff_forall_not_mem.mpr fun api hapi => (hapis api hapi).1 hempty
    · exact List.eq_nil_iff_forall_not_mem.mpr fun m hm => (hmodels m hm).1 hempty
  · rintro ⟨hinside, hnone⟩
    by_cases hempty : options.packageName = ""
    · obtain ⟨hapis, hmodels⟩ := hnone hempty
      rw [hapis, hmodels]
      exact ⟨⟨List.forall_mem_nil _, List.forall_mem_nil _⟩, hinside⟩
    · exact ⟨⟨fun _ _ => ⟨hempty, hinside⟩, fun _ _ => ⟨hempty, hinside⟩⟩, hinside⟩

/-- **Relative paths.**  If a client is generated, the paths of its files are relative exactly
if the package of the options starts with no dot and no slash and, where it is empty, the client
has neither interfaces nor models.  A relative path, and no other, stays below every directory
that it is joined to. -/
theorem isRelative_paths_iff (d : Document) (allow : List String) (options : Options)
    {client : Client}
    (h : (generate options (Analyzer.ofDocument d allow).value).value = .ok client) :
    ∃ analysis, ((Analyzer.ofDocument d allow).value.analyze options.failFast).value = .ok analysis ∧
      ((∀ file ∈ client.files, IsRelative file.path) ↔
        StartsInside options.packageName ∧
        (options.packageName = "" → writtenApis analysis = [] ∧ analysis.models = [])) ∧
      ∀ file ∈ client.files,
        ((∀ base, LiesBelow base (joinPath base file.path)) ↔ IsRelative file.path) := by
  rw [generate_value] at h
  obtain ⟨analysis, hanalysis, rfl⟩ := map_eq_ok_iff.mp h
  have hcomplete := eq_of_settle_eq_ok hanalysis
  subst hcomplete
  refine ⟨_, (Analyzer.analyze_value _ _).trans hanalysis, ?_, ?_⟩
  · rw [List.forall_mem_map, ← forall_startsInside_iff (Analyzer.ofDocument d allow).value.document]
    refine forall₂_congr fun f hf => ?_
    rw [path_render, isRelative_rootPath_iff (isSegment_fileName _ hf).1]
  · rw [List.forall_mem_map]
    intro f hf
    rw [liesBelow_joinPath_iff, path_render, leadsDown_rootPath_iff (isSegment_fileName _ hf).1]

/-- The files of two enumerations, in the package that stands for itself. -/
theorem isRelative_paths_of_enumerations :
    ∃ client, (generate {} (Analyzer.ofDocument (twoEnumerations "pet" "store") []).value).value =
        .ok client ∧
      ∀ file ∈ client.files, ∀ base, LiesBelow base (joinPath base file.path) := by
  have h := generate_false_value {} [] (Analyzer.ofDocument (twoEnumerations "pet" "store") []).value
  obtain ⟨analysis, _, hpaths, hbelow⟩ :=
    isRelative_paths_iff (twoEnumerations "pet" "store") [] {} h
  have hinside : StartsInside "com.example.client" := by simp [StartsInside]
  have hrelative := hpaths.mpr ⟨hinside, fun hempty => absurd hempty (by decide)⟩
  exact ⟨_, h, fun file hfile => (hbelow file hfile).mpr (hrelative file hfile)⟩

/-- Without a package their files go to the root, whatever the directory. -/
theorem not_isRelative_of_no_package :
    ∃ client, (generate { packageName := "" }
        (Analyzer.ofDocument (twoEnumerations "pet" "store") []).value).value = .ok client ∧
      ∃ file ∈ client.files, file.path = "/models/Pet.kt" ∧ ¬IsRelative file.path ∧
        ∀ base, joinPath base file.path = "/models/Pet.kt" := by
  have hpaths : (completeClient { packageName := "" }
      (Analyzer.ofDocument (twoEnumerations "pet" "store") []).value).files.map (·.path) =
        ["/models/Pet.kt", "/models/Store.kt", "ApiHolder.kt", "ApiAuthInterceptor.kt"] := by
    decide +kernel
  obtain ⟨file, hfile, hpath⟩ := List.mem_map.mp (hpaths ▸ List.mem_cons_self)
  have hroot : ¬IsRelative file.path := by
    rw [hpath]
    decide
  refine ⟨_, generate_false_value { packageName := "" } [] _, file, hfile, hpath, hroot,
    fun base => ?_⟩
  rw [joinPath_of_not_isRelative hroot, hpath]

end ClientGen.Kotlin
