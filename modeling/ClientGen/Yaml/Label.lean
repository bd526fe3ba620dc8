import ClientGen.Yaml.Quoted

/-!
# Anchors, tags and directives

A node may be labelled with an anchor, by which it can be meant again, and with a tag
for its kind.  A tag is a handle and a suffix; directives in front of a document say
which prefix a handle stands for.  Since any octets may be written into a suffix, which
need not be the octets of a text, tags are octets.
-/

namespace ClientGen.Yaml

/-- Octets that may be those of a text. -/
abbrev Octets := List UInt8

/-- The octets of a text. -/
def octetsOf (s : String) : Octets := s.toUTF8.toList

/-- A tag as it is written; a tag without a handle is a suffix only. -/
structure Tag where
  handle : String
  suffix : Octets
  deriving DecidableEq, Repr

/-- What a directive says. -/
inductive Directive where
  | version (major minor : Nat)
  | tagPrefix (handle : String) (start : Octets)
  deriving DecidableEq, Repr

/-- The name of an anchor, behind its mark. -/
def Cursor.anchor? (c : Cursor) : Option (String × Cursor) :=
  let name := c.rest.takeWhile isWordChar
  let c := c.dropWhile isWordChar
  let ends := endsWord c.rest || c.rest.head?.any ("?:,]\x7d%@\x60".toList.contains ·)
  if name.isEmpty || !ends then none else some (String.ofList name, c)

/-- The octet of two hexadecimal digits. -/
def octet? (high low : Char) : Option UInt8 := do
  let h ← hexValue? high
  let l ← hexValue? low
  some (UInt8.ofNat (16 * h + l))

/-- How many octets follow the first one of a character. -/
def octetsBehind? (first : UInt8) : Option Nat :=
  if first < 0x80 then some 0
  else if first &&& 0xe0 == 0xc0 then some 1
  else if first &&& 0xf0 == 0xe0 then some 2
  else if first &&& 0xf8 == 0xf0 then some 3
  else none

/-- Whether a character may stand in the name of a tag; some may only between angles. -/
def isTagChar (inAngles : Bool) (c : Char) : Bool :=
  isWordChar c || ";/?:@&=+$.%!~*'()".toList.contains c ||
    (inAngles && ",[]".toList.contains c)

/-- The octets of the name of a tag from here on, put to those in front of it, which are
backwards; `missing` is the number of octets by which the last character is incomplete. -/
def scanTagName (inAngles : Bool) (missing : Nat) (name : Octets) (p : Position) :
    List Char → Option (Octets × Cursor)
  | '%' :: high :: low :: cs => do
    let octet ← octet? high low
    let next := ((p.after '%').after high).after low
    if missing = 0 then
      scanTagName inAngles (← octetsBehind? octet) (octet :: name) next cs
    else if octet &&& 0xc0 != 0x80 then none
    else scanTagName inAngles (missing - 1) (octet :: name) next cs
  | c :: cs =>
    if c == '%' || missing ≠ 0 then none
    else if isTagChar inAngles c then
      scanTagName inAngles 0 (UInt8.ofNat c.toNat :: name) (p.after c) cs
    else some (name.reverse, ⟨c :: cs, p⟩)
  | [] => if missing = 0 then some (name.reverse, ⟨[], p⟩) else none

/-- What counts of the name of a tag: all in front of the first zero. -/
def beforeZero (name : Octets) : Octets := name.takeWhile (· ≠ 0)

namespace Cursor

/-- The name of a tag, and what follows it. -/
def tagName? (c : Cursor) (inAngles : Bool) : Option (Octets × Cursor) :=
  scanTagName inAngles 0 [] c.place c.rest

/-- A handle, behind its first mark: its name, and whether another mark ends it. -/
def handle (c : Cursor) : List Char × Bool × Cursor :=
  let name := c.rest.takeWhile isWordChar
  let c := c.dropWhile isWordChar
  match c.rest with
  | '!' :: _ => (name, true, c.drop 1)
  | _ => (name, false, c)

/-- A tag, behind its first mark, whatever follows it. -/
def tagStart? (c : Cursor) : Option (Tag × Cursor) :=
  match c.rest with
  | '<' :: _ => do
    let (name, c) ← (c.drop 1).tagName? true
    if name.isEmpty || c.rest.head? != some '>' then none
    else some (⟨"", beforeZero name⟩, c.drop 1)
  | _ => do
    let (start, closed, c) := c.handle
    let (name, c) ← c.tagName? false
    if closed then
      if name.isEmpty then none
      else some (⟨String.ofList ('!' :: start ++ ['!']), beforeZero name⟩, c)
    else
      let suffix := beforeZero (octetsOf (String.ofList start) ++ name)
      if suffix.isEmpty then some (⟨"", octetsOf "!"⟩, c)
      else some (⟨"!", suffix⟩, c)

/-- A tag, behind its first mark. -/
def tag? (c : Cursor) (inBrackets : Bool) : Option (Tag × Cursor) := do
  let (tag, c) ← c.tagStart?
  if endsWord c.rest || (inBrackets && c.rest.head? == some ',') then some (tag, c) else none

/-- A number of at most nine digits. -/
def number? (c : Cursor) : Option (Nat × Cursor) :=
  let digits := c.rest.takeWhile Char.isDigit
  if digits.isEmpty || 9 < digits.length then none
  else
    let n := digits.foldl (fun n d => 10 * n + (d.toNat - '0'.toNat)) 0
    some (n, c.dropWhile Char.isDigit)

/-- What stands behind the name of a directive. -/
def directiveValue? (c : Cursor) : String → Option (Directive × Cursor)
  | "YAML" => do
    let (major, c) ← (c.dropWhile isBlank).number?
    if c.rest.head? != some '.' then none
    else
      let (minor, c) ← (c.drop 1).number?
      some (.version major minor, c)
  | "TAG" => do
    let c := c.dropWhile isBlank
    if c.rest.head? != some '!' then none
    else
      let (name, closed, c) := (c.drop 1).handle
      if (!closed && !name.isEmpty) || !c.rest.head?.any isBlank then none
      else
        let (start, c) ← (c.dropWhile isBlank).tagName? true
        let handle := '!' :: (if closed then name ++ ['!'] else name)
        if start.isEmpty || !endsWord c.rest then none
        else some (.tagPrefix (String.ofList handle) (beforeZero start), c)
  | _ => none

/-- A directive behind its mark, up to the end of its line. -/
def directive? (c : Cursor) : Option (Directive × Cursor) := do
  let name := c.rest.takeWhile isWordChar
  let c := c.dropWhile isWordChar
  if !endsWord c.rest then none
  else
    let (d, c) ← c.directiveValue? (String.ofList name)
    let c ← c.endLine?
    some (d, c)

end Cursor

end ClientGen.Yaml
