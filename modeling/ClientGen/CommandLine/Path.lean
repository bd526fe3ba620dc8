/-!
# Paths

Parts of paths, as far as names of files are told by them.  A path is what it starts
with, a slash or a dot or nothing, and the parts between the slashes behind that; a
part that is empty or a single dot says nothing.
-/

namespace ClientGen.CommandLine

/-- Whether a part of a path says nothing. -/
def saysNothing (part : String) : Bool := part.isEmpty || part == "."

/-- The parts between slashes that say something. -/
def pathParts (path : String) : List String :=
  (path.splitOn "/").filter fun part => !saysNothing part

/-- The extension of the file that a path names: what follows the last dot of its name,
unless the name starts with that dot. -/
def extension? (path : String) : Option String := do
  let name ← (pathParts path).getLast?
  if name = ".." then none
  else
    match name.splitOn "." with
    | [] => none
    | [_] => none
    | first :: more =>
      if first.isEmpty && more.length = 1 then none else more.getLast?

/-- A path below a directory; an absolute path stands for itself. -/
def joinPath (base path : String) : String :=
  if path.startsWith "/" then path
  else if base.isEmpty || base.endsWith "/" then base ++ path
  else base ++ "/" ++ path

/-- What a path starts with, and the parts behind it, the last one first. -/
def cutPath (path : String) : String × List String :=
  match path.toList with
  | '/' :: body => ("/", ((String.ofList body).splitOn "/").reverse)
  | ['.'] => (".", [])
  | '.' :: '/' :: body => (".", ((String.ofList ('/' :: body)).splitOn "/").reverse)
  | _ => ("", (path.splitOn "/").reverse)

/-- The path of a start and some parts, the last one first; what says nothing at its end
is left out. -/
def pathOf (start : String) (parts : List String) : String :=
  start ++ "/".intercalate (parts.dropWhile saysNothing).reverse

/-- The directory that a path is in, and those around it, the inner ones first. -/
def pathsAround (start : String) : List String → List String
  | [] => if start = "." then [""] else []
  | part :: parts =>
    if saysNothing part then pathsAround start parts
    else pathOf start parts :: pathsAround start parts

/-- The directories that a path is in, the inner ones first. -/
def ancestors (path : String) : List String :=
  let (start, parts) := cutPath path
  pathsAround start parts

/-- The directory that a path is in; nothing for one that names no place. -/
def parentPath? (path : String) : Option String := (ancestors path).head?

end ClientGen.CommandLine
