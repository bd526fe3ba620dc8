import ClientGen.Proofs.Kotlin.Identifiers
import ClientGen.Proofs.Kotlin.Paths
import ClientGen.Proofs.Naming

/-!
# The names of the files of a client

Tags and keys are whatever a document says, `../../etc` included, and each becomes the
name of a file.  What keeps such a file in the directory of its package is that no name
has a character that a path would read: a tag is cut into words, which have none, and a
key becomes an identifier, in which none is left even between backticks.

* `isSegment_interfaceName`, `isSegment_typeName`: the two ways a name is made;
* `files_stay_in_packages`: the files of a client that is generated.
-/

namespace ClientGen.Kotlin

open Naming (IsWord isWord_pascal)
open Text (IsWordChar)

/-! ### Segments -/

/-- A name that is a single segment of a path and has no extension of its own. -/
structure IsSegment (name : String) : Prop where
  ne_empty : name ≠ ""
  no_slash : '/' ∉ name.toList
  no_backslash : '\\' ∉ name.toList
  no_dot : '.' ∉ name.toList

/-- The characters that a segment is free of. -/
def pathChars : List Char := ['/', '\\', '.']

/-- A name without the characters of paths is a segment. -/
theorem isSegment_of_forall {name : String} (hne : name ≠ "")
    (h : ∀ c ∈ name.toList, c ∉ pathChars) : IsSegment name where
  ne_empty := hne
  no_slash := fun hc => h _ hc (by decide)
  no_backslash := fun hc => h _ hc (by decide)
  no_dot := fun hc => h _ hc (by decide)

/-- Characters of words have no meaning in paths. -/
theorem not_pathChar_of_isWordChar {c : Char} (h : IsWordChar c) : c ∉ pathChars := by
  intro hc
  simp only [pathChars, List.mem_cons, List.not_mem_nil, or_false] at hc
  rcases hc with rfl | rfl | rfl <;> exact absurd h (by unfold IsWordChar; decide)

/-- Characters of plain identifiers have no meaning in paths. -/
theorem not_pathChar_of_isIdentifierPart {c : Char} (h : isIdentifierPart c = true) :
    c ∉ pathChars := by
  intro hc
  simp only [pathChars, List.mem_cons, List.not_mem_nil, or_false] at hc
  rcases hc with rfl | rfl | rfl <;> exact absurd h (by decide)

/-! ### Interfaces and types -/

/-- A capitalized tag with the ending of interfaces. -/
theorem isSegment_interfaceName {api : AnalyzedApi} {tag : String}
    (htag : api.group.name = Name.ofText tag) : IsSegment (interfaceName api) := by
  have hname : (interfaceName api).toList = (Name.ofText tag).pascal.toList ++ "Api".toList := by
    rw [interfaceName, htag, String.toList_append]
  refine isSegment_of_forall ?_ ?_
  · intro h
    rw [h] at hname
    exact absurd hname (by simp)
  · intro c hc
    rw [hname] at hc
    rcases List.mem_append.mp hc with hc | hc
    · exact not_pathChar_of_isWordChar (isWord_pascal tag c hc)
    · have hending : ∀ c ∈ "Api".toList, c ∉ pathChars := by simp [pathChars]
      exact hending c hc

/-- Backticks around a segment leave it one. -/
theorem isSegment_backticked {cs : List Char} (h : ∀ c ∈ cs, c ∉ pathChars) :
    IsSegment (backticked cs) := by
  have hbacktick : '\x60' ∉ pathChars := by decide
  refine isSegment_of_forall (fun hempty => ?_) fun c hc => ?_
  · have hchars := toList_backticked cs
    rw [hempty] at hchars
    cases hchars
  · rw [toList_backticked] at hc
    rcases List.mem_cons.mp hc with rfl | hc
    · exact hbacktick
    · rcases List.mem_append.mp hc with hc | hc
      · exact h c hc
      · rw [List.mem_singleton.mp hc]
        exact hbacktick

/-- An identifier without the characters of paths is a segment. -/
theorem isSegment_of_isIdentifier {name : String} (h : IsIdentifier pathChars name) :
    IsSegment name := by
  cases h with
  | plain hplain _ =>
      have hne : name ≠ "" := by
        rintro rfl
        cases hplain
      exact isSegment_of_forall hne fun c hc =>
        not_pathChar_of_isIdentifierPart (isIdentifierPart_of_mem hplain hc)
  | quoted _ hcs hs =>
      rw [hs]
      exact isSegment_backticked hcs

/-- **Identifiers.**  Every name becomes an identifier that is a segment, whatever it
holds. -/
theorem isSegment_escapeIdentifier (name : String) : IsSegment (escapeIdentifier name) := by
  have hforbidden : ∀ c ∈ pathChars, c ∈ forbiddenChars := by simp [pathChars, forbiddenChars]
  exact isSegment_of_isIdentifier
    (isIdentifier_escapeIdentifier (by decide) fun c _ hc => hforbidden c hc)

/-- The name of a type is a segment, whatever its key is. -/
theorem isSegment_typeName (key : String) : IsSegment (typeName key) :=
  isSegment_escapeIdentifier _

/-! ### All files -/

variable {options : Options} {d : Document} {allow : List String}

/-- The groups of a document are named by tags. -/
theorem exists_tag_of_mem_groups {g : Group}
    (h : g ∈ (Analyzer.ofDocument d allow).value.groups) : ∃ tag, g.name = Name.ofText tag := by
  obtain ⟨⟨tag, members⟩, _, rfl⟩ := List.mem_map.mp h
  exact ⟨tag, rfl⟩

/-- The files of the complete analysis are named by segments and lie in the packages of
the options. -/
theorem isSegment_fileName {f : SourceFile} (doc : Document)
    (hf : f ∈ clientFiles options doc (Analyzer.ofDocument d allow).value.complete) :
    IsSegment f.fileName ∧
      f.package ∈ [options.packageName, options.apiPackage, options.modelPackage] := by
  rcases List.mem_append.mp hf with hf | hf
  · rcases List.mem_append.mp hf with hf | hf
    · obtain ⟨api, hapi, rfl⟩ := List.mem_map.mp hf
      obtain ⟨g, hg, rfl⟩ := List.mem_map.mp (List.mem_filter.mp hapi).1
      obtain ⟨tag, htag⟩ := exists_tag_of_mem_groups hg
      have hpackage : options.apiPackage ∈
          [options.packageName, options.apiPackage, options.modelPackage] := by simp
      exact ⟨isSegment_interfaceName htag, hpackage⟩
    · obtain ⟨m, _, rfl⟩ := List.mem_map.mp hf
      have hname : (modelFile options m).fileName = typeName m.name.text := by rw [modelFile]
      have hpackage : options.modelPackage ∈
          [options.packageName, options.apiPackage, options.modelPackage] := by simp
      exact ⟨hname ▸ isSegment_typeName m.name.text, hpackage⟩
  · have hholder : IsSegment "ApiHolder" := isSegment_of_forall (by decide) (by simp [pathChars])
    have hinterceptor : IsSegment "ApiAuthInterceptor" :=
      isSegment_of_forall (by decide) (by simp [pathChars])
    rcases List.mem_pair.mp hf with rfl | rfl
    · exact ⟨hholder, List.mem_cons_self⟩
    · exact ⟨hinterceptor, List.mem_cons_self⟩

/-- A file is written under its name in the directory of its package. -/
theorem path_render (f : SourceFile) : f.render.path = rootPath f.package f.fileName := by
  rw [SourceFile.render, path_root rfl]

/-- **Files stay in their packages.**  If a client is generated, whatever tags and keys the
document has, each of its files is named by a single segment: the name is not empty and has
no slash, backslash or dot.  It lies in the directory of one of the three packages of the
options, under that name with `.kt` behind it. -/
theorem files_stay_in_packages (d : Document) (allow : List String) (options : Options)
    {client : Client}
    (h : (generate options (Analyzer.ofDocument d allow).value).value = .ok client) :
    ∃ analysis, ((Analyzer.ofDocument d allow).value.analyze options.failFast).value = .ok analysis ∧
      client.files = (clientFiles options (Analyzer.ofDocument d allow).value.document
        analysis).map (·.render) ∧
      ∀ f ∈ clientFiles options (Analyzer.ofDocument d allow).value.document analysis,
        IsSegment f.fileName ∧
        f.package ∈ [options.packageName, options.apiPackage, options.modelPackage] ∧
        f.render.path = rootPath f.package f.fileName := by
  rw [generate_value] at h
  obtain ⟨analysis, hanalysis, rfl⟩ := map_eq_ok_iff.mp h
  refine ⟨analysis, (Analyzer.analyze_value _ _).trans hanalysis, rfl, ?_⟩
  intro f hf
  have hcomplete := eq_of_settle_eq_ok hanalysis
  subst hcomplete
  obtain ⟨hname, hpackage⟩ := isSegment_fileName _ hf
  exact ⟨hname, hpackage, path_render f⟩

/-- A document whose tag and whose key are paths out of the directory. -/
def hostileDocument : Document where
  version := "3.0.3"
  info := ⟨"Pets", none, "1"⟩
  paths := [("/pets", { operations := [(.get, { tags := ["../../etc/passwd"] })] })]
  components := some { schemas := [("..\\..\\evil.x", .inline { literals := [.text "open"] })] }

/-- The two names are cut into words. -/
theorem files_of_hostile_names :
    ∃ client, (generate {} (Analyzer.ofDocument hostileDocument []).value).value = .ok client ∧
      client.files.map (·.path) =
        [rootPath "com.example.client.api" "EtcPasswdApi",
          rootPath "com.example.client.models" "EvilX",
          rootPath "com.example.client" "ApiHolder",
          rootPath "com.example.client" "ApiAuthInterceptor"] ∧
      ∀ file ∈ client.files, ∃ package name,
        IsSegment name ∧ file.path = rootPath package name := by
  have h := generate_false_value {} [] (Analyzer.ofDocument hostileDocument []).value
  obtain ⟨analysis, _, hfiles, hall⟩ := files_stay_in_packages hostileDocument [] {} h
  refine ⟨_, h, ?_, fun file hfile => ?_⟩
  · decide +kernel
  · rw [hfiles] at hfile
    obtain ⟨f, hf, rfl⟩ := List.mem_map.mp hfile
    obtain ⟨hname, _, hpath⟩ := hall f hf
    exact ⟨f.package, f.fileName, hname, hpath⟩

end ClientGen.Kotlin
