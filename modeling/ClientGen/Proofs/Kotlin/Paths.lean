import ClientGen.Proofs.Kotlin.Client
import Mathlib.Data.List.Nodup

/-!
# Where the files of a client go

The interfaces and the models have folders of their own beside the two files that
support them, so files of different kinds never meet.  Within a folder a file is
told from the others by the name of its type alone, and different tags or keys may
have the same one.

* `path_apiFile`, `path_modelFile`, `path_root`: the path of each kind of file;
* `paths_clientFiles`, `nodup_paths_iff`: the paths of a client, and when they differ;
* `paths_nodup_iff`: the same of a client that is generated.
-/

namespace ClientGen.Kotlin

variable {options : Options} {d : Document} {package : String}

/-! ### One file -/

/-- The path of a file in a folder below the directory of a package. -/
def folderPath (package folder name : String) : String :=
  SourceFile.directory package ++ "/" ++ folder ++ "/" ++ name ++ ".kt"

/-- The path of a file in the directory of a package itself. -/
def rootPath (package name : String) : String :=
  (if SourceFile.directory package = "" then "" else SourceFile.directory package ++ "/")
    ++ name ++ ".kt"

/-- A package has the directories of its parts inside each other. -/
theorem directory_append (package rest : String) :
    SourceFile.directory (package ++ rest) =
      SourceFile.directory package ++ SourceFile.directory rest := by
  apply String.toList_inj.mp
  simp [SourceFile.directory]

/-- A file of a subpackage goes into a folder. -/
theorem path_eq_folderPath {f : SourceFile} {part folder : String}
    (hpackage : f.package = package ++ part) (hpart : SourceFile.directory part = "/" ++ folder) :
    f.path "kt" = folderPath package folder f.fileName := by
  have hdirectory : SourceFile.directory f.package =
      SourceFile.directory package ++ "/" ++ folder := by
    rw [hpackage, directory_append, hpart, String.append_assoc]
  have hne : SourceFile.directory f.package ≠ "" := by
    rw [hdirectory]
    intro h
    have hlength := congrArg (fun s => s.toList.length) h
    simp at hlength
  have hextension : "." ++ "kt" = ".kt" := by decide
  rw [SourceFile.path, if_neg hne, hdirectory, folderPath, ← hextension, String.append_assoc]

/-- The interface of a group. -/
theorem path_apiFile (api : AnalyzedApi) :
    (apiFile options api).path "kt" = folderPath options.packageName "api" (interfaceName api) :=
  path_eq_folderPath rfl (by decide)

/-- A model. -/
theorem path_modelFile (m : Model) :
    (modelFile options m).path "kt" =
      folderPath options.packageName "models" (typeName m.name.text) := by
  have hpackage : (modelFile options m).package = options.packageName ++ ".models" := rfl
  have hfolder : SourceFile.directory ".models" = "/" ++ "models" := by decide
  have hname : (modelFile options m).fileName = typeName m.name.text := by rw [modelFile]
  rw [path_eq_folderPath hpackage hfolder, hname]

/-- A file of the package itself. -/
theorem path_root {f : SourceFile} (hpackage : f.package = package) :
    f.path "kt" = rootPath package f.fileName := by
  have hextension : "." ++ "kt" = ".kt" := by decide
  rw [SourceFile.path, rootPath, hpackage, ← hextension]
  split
  · simp only [String.empty_append, String.append_assoc]
  · simp only [String.append_assoc]

/-! ### Different files -/

/-- Within a folder the names differ exactly if the paths do. -/
theorem folderPath_injective (package folder : String) :
    Function.Injective (folderPath package folder) := by
  intro a b h
  exact (String.append_right_inj _).mp ((String.append_left_inj _).mp h)

/-- No interface goes where a model goes. -/
theorem folderPath_api_ne_models (package a b : String) :
    folderPath package "api" a ≠ folderPath package "models" b := by
  intro h
  have hchars := congrArg String.toList h
  simp [folderPath] at hchars

/-- The supporting files, whose names start with a capital, go into no folder. -/
theorem folderPath_ne_rootPath {folder : String} (package a rest : String)
    (hfolder : folder = "api" ∨ folder = "models") :
    folderPath package folder a ≠ rootPath package ("Api" ++ rest) := by
  intro h
  have hchars := congrArg String.toList h
  by_cases hroot : SourceFile.directory package = ""
  · rcases hfolder with rfl | rfl <;> simp [folderPath, rootPath, hroot] at hchars
  · rcases hfolder with rfl | rfl <;> simp [folderPath, rootPath, hroot] at hchars

/-- The supporting files differ from each other. -/
theorem rootPath_injective (package : String) : Function.Injective (rootPath package) := by
  intro a b h
  exact (String.append_right_inj _).mp ((String.append_left_inj _).mp h)

/-! ### All files -/

/-- The paths of a client: a folder of interfaces, a folder of models, and two files
beside them. -/
theorem paths_clientFiles (analysis : Analysis) :
    (clientFiles options d analysis).map (·.path "kt") =
      ((writtenApis analysis).map interfaceName).map (folderPath options.packageName "api") ++
      (analysis.models.map fun m => typeName m.name.text).map
        (folderPath options.packageName "models") ++
      [rootPath options.packageName "ApiHolder",
        rootPath options.packageName "ApiAuthInterceptor"] := by
  have hholder : (holderFile options d).path "kt" = rootPath options.packageName "ApiHolder" :=
    path_root rfl
  have hinterceptor : (interceptorFile options d).path "kt" =
      rootPath options.packageName "ApiAuthInterceptor" := path_root rfl
  simp [clientFiles, Function.comp_def, path_apiFile, path_modelFile, hholder, hinterceptor]

/-- The paths of a client differ exactly if those of its interfaces and of its models do. -/
theorem nodup_paths_iff (analysis : Analysis) :
    ((clientFiles options d analysis).map (·.path "kt")).Nodup ↔
      ((writtenApis analysis).map interfaceName).Nodup ∧
      (analysis.models.map fun m => typeName m.name.text).Nodup := by
  have hsupport : [rootPath options.packageName "ApiHolder",
      rootPath options.packageName "ApiAuthInterceptor"].Nodup := by
    have hne : rootPath options.packageName "ApiHolder" ≠
        rootPath options.packageName "ApiAuthInterceptor" := by
      intro h
      exact absurd (rootPath_injective _ h) (by decide)
    simpa using hne
  rw [paths_clientFiles, List.nodup_append, List.nodup_append,
    List.nodup_map_iff (folderPath_injective _ _), List.nodup_map_iff (folderPath_injective _ _)]
  constructor
  · rintro ⟨⟨hapis, hmodels, _⟩, _, _⟩
    exact ⟨hapis, hmodels⟩
  · rintro ⟨hapis, hmodels⟩
    refine ⟨⟨hapis, hmodels, ?_⟩, hsupport, ?_⟩
    · intro a ha b hb
      obtain ⟨x, _, rfl⟩ := List.mem_map.mp ha
      obtain ⟨y, _, rfl⟩ := List.mem_map.mp hb
      exact folderPath_api_ne_models _ x y
    · intro a ha b hb
      have hfolder : ∃ folder name, (folder = "api" ∨ folder = "models") ∧
          a = folderPath options.packageName folder name := by
        rcases List.mem_append.mp ha with ha | ha
        · obtain ⟨x, _, rfl⟩ := List.mem_map.mp ha
          exact ⟨"api", x, .inl rfl, rfl⟩
        · obtain ⟨x, _, rfl⟩ := List.mem_map.mp ha
          exact ⟨"models", x, .inr rfl, rfl⟩
      obtain ⟨folder, name, hfolder, rfl⟩ := hfolder
      rcases List.mem_pair.mp hb with rfl | rfl
      · exact folderPath_ne_rootPath _ name "Holder" hfolder
      · exact folderPath_ne_rootPath _ name "AuthInterceptor" hfolder

/-- **Different paths.**  If a client is generated, its files have different paths exactly
if its interfaces have different names and its models have different names.  Files of
different kinds never meet. -/
theorem paths_nodup_iff (d : Document) (allow : List String) (options : Options)
    {client : Client}
    (h : (generate options (Analyzer.ofDocument d allow).value).value = .ok client) :
    ∃ analysis, ((Analyzer.ofDocument d allow).value.analyze options.failFast).value = .ok analysis ∧
      ((client.files.map (·.path)).Nodup ↔
        ((writtenApis analysis).map interfaceName).Nodup ∧
        (analysis.models.map fun m => typeName m.name.text).Nodup) := by
  rw [generate_value] at h
  obtain ⟨analysis, hanalysis, rfl⟩ := map_eq_ok_iff.mp h
  refine ⟨analysis, (Analyzer.analyze_value _ _).trans hanalysis, ?_⟩
  rw [List.map_map]
  exact nodup_paths_iff analysis

/-- A document that declares two enumerations. -/
def twoEnumerations (first second : String) : Document where
  version := "3.0.3"
  info := ⟨"Pets", none, "1"⟩
  components := some
    { schemas :=
        [(first, .inline { literals := [.text "open"] }),
          (second, .inline { literals := [.text "closed"] })] }

/-- Keys of different words have files of their own. -/
theorem paths_of_different_words :
    ∃ client, (generate {} (Analyzer.ofDocument (twoEnumerations "pet" "store") []).value).value =
        .ok client ∧
      (client.files.map (·.path)).Nodup := by
  have h := (generate_value {} (Analyzer.ofDocument (twoEnumerations "pet" "store") []).value).trans
    (congrArg _ settle_false)
  obtain ⟨analysis, hanalysis, hiff⟩ := paths_nodup_iff (twoEnumerations "pet" "store") [] {} h
  refine ⟨_, h, hiff.mpr ?_⟩
  have hcomplete := hanalysis.symm.trans ((Analyzer.analyze_value _ _).trans settle_false)
  cases hcomplete
  decide +kernel

/-- Keys of the same words have one file between them. -/
theorem paths_of_same_words :
    ∃ client,
      (generate {} (Analyzer.ofDocument (twoEnumerations "pet-store" "PetStore") []).value).value =
        .ok client ∧
      ¬(client.files.map (·.path)).Nodup := by
  refine ⟨_, (generate_value _ _).trans (congrArg _ settle_false), ?_⟩
  rw [List.map_map]
  intro h
  exact absurd ((nodup_paths_iff _).mp h).2 (by decide +kernel)

end ClientGen.Kotlin
