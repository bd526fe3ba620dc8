import ClientGen.CommandLine.Path

/-!
# Files

A run sees files through `Files`, in whatever monad they are read and written.  A
`Disk` holds files and directories in memory: it has the same view, in which every run
is a function of what was there.
-/

namespace ClientGen.CommandLine

/-- Why a file could not be read or written. -/
inductive FileFault where
  | notFound
  | denied
  | present
  | notDirectory
  | isDirectory
  | nameTooLong
  /-- The path holds a character that no name may have. -/
  | noName
  /-- The content is no text. -/
  | notText
  | other (message : String)
  deriving DecidableEq, Repr

/-- What is reported about a file. -/
def FileFault.message : FileFault → String
  | notFound => "No such file or directory (os error 2)"
  | denied => "Permission denied (os error 13)"
  | present => "File exists (os error 17)"
  | notDirectory => "Not a directory (os error 20)"
  | isDirectory => "Is a directory (os error 21)"
  | nameTooLong => "File name too long (os error 36)"
  | noName => "file name contained an unexpected NUL byte"
  | notText => "stream did not contain valid UTF-8"
  | other message => message

/-- What a run can do with files. -/
structure Files (m : Type → Type) where
  /-- Whether there is anything at a path. -/
  has : String → m Bool
  /-- The content of a file. -/
  read : String → m (Except FileFault String)
  /-- Makes a directory and all those it is in, unless they are there. -/
  makeDirectory : String → m (Except FileFault Unit)
  /-- Gives a file a content. -/
  write : String → String → m (Except FileFault Unit)

/-- What is at a place. -/
inductive Entry where
  | file (content : String)
  | directory
  deriving DecidableEq, Repr

/-- Names from the root on. -/
abbrev Place := List String

/-- Files and directories in memory by their places; the root is always there. -/
structure Disk where
  files : List (Place × String) := []
  directories : List Place := []
  deriving DecidableEq, Repr

namespace Disk

/-- The directory in which a run takes place.  Its name is one that no path can have. -/
def workplace : Place := ["tmp", ""]

/-- A disk without any files, the one that is always empty apart. -/
def empty : Disk :=
  ⟨[(["dev", "null"], "")], [["dev"], ["tmp"], workplace]⟩

/-- What is at a place. -/
def entry? (d : Disk) (place : Place) : Option Entry :=
  if place.isEmpty || d.directories.contains place then some .directory
  else (d.files.lookup place).map .file

/-- How long a name may be, in octets. -/
def maxName : Nat := 255

/-- How long a path may be, in octets. -/
def maxPath : Nat := 4095

/-- The place to which some parts of a path lead, seen from a directory, and what is there.
All but the last part must lead to directories. -/
def walk (d : Disk) (here : Place) : List String → Except FileFault (Place × Option Entry)
  | [] => .ok (here, some .directory)
  | part :: parts =>
    if saysNothing part then d.walk here parts
    else if part = ".." then d.walk here.dropLast parts
    else if maxName < part.utf8ByteSize then .error .nameTooLong
    else
      let there := here ++ [part]
      match d.entry? there with
      | some .directory => d.walk there parts
      | some (.file content) =>
        if parts.isEmpty then .ok (there, some (.file content)) else .error .notDirectory
      | none =>
        if parts.all (·.isEmpty) then .ok (there, none) else .error .notFound

/-- The place that a path names, and what is there. -/
def find (d : Disk) (path : String) : Except FileFault (Place × Option Entry) :=
  if path.contains '\x00' then .error .noName
  else if path.isEmpty then .error .notFound
  else if maxPath < path.utf8ByteSize then .error .nameTooLong
  else d.walk (if path.startsWith "/" then [] else workplace) (path.splitOn "/")

/-- Whether there is anything at a path. -/
def has (d : Disk) (path : String) : Bool :=
  match d.find path with
  | .ok (_, some _) => true
  | _ => false

/-- Whether there is a directory at a path. -/
def hasDirectory (d : Disk) (path : String) : Bool :=
  match d.find path with
  | .ok (_, some .directory) => true
  | _ => false

/-- Reads a file. -/
def read (d : Disk) (path : String) : Except FileFault String :=
  match d.find path with
  | .error fault => .error fault
  | .ok (_, some (.file content)) => .ok content
  | .ok (_, some .directory) => .error .isDirectory
  | .ok (_, none) => .error .notFound

/-- Makes a directory in one that is there. -/
def makeOne (d : Disk) (path : String) : Except FileFault Unit × Disk :=
  match d.find path with
  | .error fault => (.error fault, d)
  | .ok (_, some _) => (.error .present, d)
  | .ok (place, none) => (.ok (), { d with directories := place :: d.directories })

/-- Makes the first of some directories, each of which is in the next one, and before it
those that it needs. -/
def makeAll (d : Disk) : List String → Except FileFault Unit × Disk
  | [] => (.ok (), d)
  | path :: outer =>
    match d.makeOne path with
    | (.error .notFound, _) =>
      match d.makeAll outer with
      | (.error fault, d) => (.error fault, d)
      | (.ok (), d) =>
        match d.makeOne path with
        | (.ok (), d) => (.ok (), d)
        | (.error fault, d) => (if d.hasDirectory path then .ok () else .error fault, d)
    | (.error fault, d) => (if d.hasDirectory path then .ok () else .error fault, d)
    | (.ok (), d) => (.ok (), d)

/-- Makes a directory and all those it is in.  A path that is in no other names one that
is always there. -/
def makeDirectory (d : Disk) (path : String) : Except FileFault Unit × Disk :=
  d.makeAll ((path :: ancestors path).filter fun p => (parentPath? p).isSome)

/-- Puts a content in place of that of a file, or behind all files. -/
def put (place : Place) (content : String) : List (Place × String) → List (Place × String)
  | [] => [(place, content)]
  | (file, old) :: files =>
    if file = place then (file, content) :: files else (file, old) :: put place content files

/-- Writes a file. -/
def write (d : Disk) (path content : String) : Except FileFault Unit × Disk :=
  match d.find path with
  | .error fault => (.error fault, d)
  | .ok (_, some .directory) => (.error .isDirectory, d)
  | .ok (place, _) =>
    if path.endsWith "/" then (.error .isDirectory, d)
    else (.ok (), { d with files := put place content d.files })

/-- The disk with one more file. -/
def add (d : Disk) (path content : String) : Disk :=
  let (_, d) := d.makeDirectory ((parentPath? path).getD "")
  (d.write path content).2

/-- A disk with some files. -/
def ofFiles (files : List (String × String)) : Disk :=
  files.foldl (fun d file => d.add file.1 file.2) empty

/-- The files in the directory of the run that are not the same in an earlier state of the
disk, with their paths. -/
def changesSince (d start : Disk) : List (String × String) :=
  d.files.filterMap fun (place, content) =>
    if workplace.isPrefixOf place && start.entry? place != some (.file content) then
      some ("/".intercalate (place.drop workplace.length), content)
    else none

/-- The disk as a run sees it. -/
def view : Files (StateM Disk) where
  has path := return (← get).has path
  read path := return (← get).read path
  makeDirectory path := modifyGet fun d => d.makeDirectory path
  write path content := modifyGet fun d => d.write path content

end Disk

end ClientGen.CommandLine
