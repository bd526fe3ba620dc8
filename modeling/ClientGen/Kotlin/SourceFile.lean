import ClientGen.NameSet

/-!
# Kotlin source files

A `SourceFile` is one file before it is written out: its package, its base name,
the imports it needs and its top-level declarations.  Imports form a set, kept
in ascending order; imports of the file's own package are dropped when the file
is rendered, since Kotlin sees those names anyway.
-/

namespace ClientGen.Kotlin

/-- One source file before it is written out. -/
structure SourceFile where
  package : String
  fileName : String
  imports : NameSet := ∅
  declarations : List String := []
  deriving DecidableEq, Repr

/-- A file as it is written: where it goes, relative to the source root, and its text. -/
structure RenderedFile where
  path : String
  content : String
  deriving DecidableEq, Repr

/-- What precedes the last dot of a qualified name, if it has a dot. -/
def qualifier? (name : String) : Option String :=
  match name.toList.reverse.dropWhile (· ≠ '.') with
  | [] => none
  | _ :: front => some (String.ofList front.reverse)

namespace SourceFile

/-- The directory of a package: its segments separated by slashes. -/
def directory (package : String) : String :=
  String.ofList (package.toList.map fun c => if c = '.' then '/' else c)

/-- The path of the file relative to the source root. -/
def path (f : SourceFile) (extension : String) : String :=
  let dir := directory f.package
  if dir = "" then f.fileName ++ "." ++ extension
  else dir ++ "/" ++ f.fileName ++ "." ++ extension

/-- The imports that have to be written: those from other packages. -/
def foreignImports (f : SourceFile) : List String :=
  f.imports.toList.filter fun name => qualifier? name ≠ some f.package

/-- The text of the file. -/
def content (f : SourceFile) : String :=
  let imports := f.foreignImports.map fun name => "import " ++ name ++ "\n"
  let declarations := f.declarations.map fun d => "\n" ++ d ++ "\n"
  "package " ++ f.package ++ "\n"
    ++ (if imports.isEmpty then "" else "\n" ++ String.join imports)
    ++ String.join declarations

/-- The file with its path and text. -/
def render (f : SourceFile) : RenderedFile := ⟨f.path "kt", f.content⟩

end SourceFile

end ClientGen.Kotlin
