import ClientGen.Text.Blank

/-!
# Media types

What a body is made of, as far as the client treats it differently.  Only the
part of a media type in front of its parameters counts, in any case.
-/

namespace ClientGen

/-- The kinds of bodies that are told apart. -/
inductive MediaKind where
  | json
  | multipart
  | urlEncoded
  | other
  deriving DecidableEq, Repr

namespace MediaKind

/-- A media type without its parameters and blanks, in small letters. -/
def essence (mime : String) : String :=
  String.ofList ((Text.trimChars (mime.toList.takeWhile (· ≠ ';'))).map Char.toLower)

/-- The kind of a media type. -/
def ofMime (mime : String) : MediaKind :=
  let e := essence mime
  if e = "application/json" then .json
  else if e = "multipart/form-data" then .multipart
  else if e = "application/x-www-form-urlencoded" then .urlEncoded
  else if e.endsWith "+json" then .json
  else .other

/-- How much a kind is preferred in a request, the least rank most; other kinds are
not preferred at all. -/
def requestRank? : MediaKind → Option Nat
  | json => some 0
  | multipart => some 1
  | urlEncoded => some 2
  | other => none

end MediaKind

/-- How the body of a request becomes parameters. -/
inductive BodyFlavor where
  /-- One parameter that is the whole body. -/
  | whole
  /-- A part for each property. -/
  | multipart
  /-- A form field for each property. -/
  | urlEncoded
  /-- Not at all. -/
  | unsupported
  deriving DecidableEq, Repr

/-- The flavor of a body of a kind. -/
def MediaKind.flavor : MediaKind → BodyFlavor
  | json => .whole
  | multipart => .multipart
  | urlEncoded => .urlEncoded
  | other => .unsupported

end ClientGen
