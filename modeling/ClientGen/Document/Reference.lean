/-!
# References into the components of a document

Wherever a document may give a schema, a parameter, a request body or a
response, it may instead give the path of one that its components declare.
`OrRef` is that choice.  A path is `#/components/`, the section, a slash and the
name of the component; `refName` takes the name from a path and `refPath` makes
the path of a name.

* `eq_refPath_of_refName`: a path that gives a name is the path of that name, so
  no two paths give one name within a section.
-/

namespace ClientGen

/-- An item, or the path of one that is declared elsewhere. -/
inductive OrRef (α : Type u) where
  | ref (path : String)
  | inline (item : α)
  deriving DecidableEq, Repr

namespace OrRef

variable {α : Type u}

/-- The item, if it is given in place. -/
def item? : OrRef α → Option α
  | ref _ => none
  | inline item => some item

/-- The path, if there is one. -/
def path? : OrRef α → Option String
  | ref path => some path
  | inline _ => none

end OrRef

/-- Why a path is no reference into a section. -/
inductive PathFault where
  /-- It does not have the form of a reference at all. -/
  | malformed (path : String)
  /-- It leads into another section. -/
  | wrongSection (expected found path : String)
  deriving DecidableEq, Repr

/-- What is reported about a path. -/
def PathFault.detail : PathFault → String
  | malformed path => path
  | wrongSection expected found path =>
    "expected section '" ++ expected ++ "', got '" ++ found ++ "' in " ++ path

/-- Why a reference could not be followed. -/
inductive ReferenceError where
  /-- The path was met before on the same chain. -/
  | circular (path : String)
  | invalidFormat (fault : PathFault)
  /-- The section has no such component. -/
  | targetNotFound (path : String)
  /-- A reference stands where an item is needed. -/
  | unresolved (path : String)
  /-- No schema has this key. -/
  | unknownModel (key : String)
  deriving DecidableEq, Repr

/-- The text of a failure. -/
def ReferenceError.message : ReferenceError → String
  | circular path => "circular reference detected: " ++ path
  | invalidFormat fault => "invalid reference format: " ++ fault.detail
  | targetNotFound path => "reference target not found: " ++ path
  | unresolved path => "reference could not be inlined: " ++ path
  | unknownModel key => "schema `" ++ key ++ "` is not declared in components.schemas"

/-- What every reference starts with. -/
def componentsRoot : List Char := ['#', '/', 'c', 'o', 'm', 'p', 'o', 'n', 'e', 'n', 't', 's', '/']

/-- The path of a component. -/
def refPath (part name : String) : String :=
  String.ofList (componentsRoot ++ (part.toList ++ '/' :: name.toList))

/-- What follows a beginning, if the text has it. -/
def afterStart? : List Char → List Char → Option (List Char)
  | [], cs => some cs
  | _ :: _, [] => none
  | b :: start, c :: cs => if b = c then afterStart? start cs else none

/-- The text before and behind the first slash. -/
def cutAtSlash? : List Char → Option (List Char × List Char)
  | [] => none
  | c :: cs =>
    if c = '/' then some ([], cs) else (cutAtSlash? cs).map fun (a, b) => (c :: a, b)

/-- The name of the component in a section that a path leads to. -/
def refName (path part : String) : Except PathFault String :=
  match afterStart? componentsRoot path.toList with
  | none => .error (.malformed path)
  | some rest =>
    match cutAtSlash? rest with
    | none => .error (.malformed path)
    | some (found, name) =>
      if found ≠ part.toList then .error (.wrongSection part (String.ofList found) path)
      else if name = [] ∨ '/' ∈ name then .error (.malformed path)
      else .ok (String.ofList name)

/-- A start is cut off exactly where the text has it in front. -/
theorem afterStart?_eq_some_iff {start cs rest : List Char} :
    afterStart? start cs = some rest ↔ cs = start ++ rest := by
  induction start generalizing cs with
  | nil => simp [afterStart?]
  | cons b start ih =>
    cases cs with
    | nil => simp [afterStart?]
    | cons c cs =>
      by_cases h : b = c
      · simp [afterStart?, h, ih]
      · simp [afterStart?, h, eq_comm]

/-- A text is cut at its first slash. -/
theorem cutAtSlash?_eq_some_iff {cs a b : List Char} :
    cutAtSlash? cs = some (a, b) ↔ cs = a ++ '/' :: b ∧ '/' ∉ a := by
  induction cs generalizing a with
  | nil => simp [cutAtSlash?]
  | cons c cs ih =>
    by_cases h : c = '/'
    · subst h
      cases a with
      | nil => simp [cutAtSlash?]
      | cons d a => simp [cutAtSlash?]; grind
    · cases a with
      | nil => simp [cutAtSlash?, h]
      | cons d a =>
        simp only [cutAtSlash?, h, if_false, Option.map_eq_some_iff, Prod.mk.injEq, Prod.exists,
          List.cons.injEq]
        grind

/-- A path that gives a name is the path of that name. -/
theorem eq_refPath_of_refName {path part name : String} (h : refName path part = .ok name) :
    path = refPath part name := by
  unfold refName at h
  split at h
  · cases h
  next rest hstart =>
    split at h
    · cases h
    next found tail hcut =>
      split at h
      · cases h
      next hfound =>
        split at h
        · cases h
        next hname =>
          have hpath := afterStart?_eq_some_iff.1 hstart
          have hrest := (cutAtSlash?_eq_some_iff.1 hcut).1
          have hpart : found = part.toList := by simpa using hfound
          cases h
          rw [refPath, String.toList_ofList, ← hpart, ← hrest, ← hpath, String.ofList_toList]

end ClientGen
