import ClientGen.Yaml.Token

/-!
# From tokens to trees

A text holds one document, whose tokens make up a tree of lists and records; scalars
and aliases are its leaves.  Where something is missing that may be missing, such as
the value behind a colon, there is a plain scalar without a text.

Each function gives back the tokens behind what it has read.  A function for what
stands inside a list or record has taken at least one token before it is called, so
twice the number of tokens bounds how deep the calls are nested.
-/

namespace ClientGen.Yaml

/-- The labels of a node; anchors are of a type of their own. -/
structure Labels (α : Type) where
  anchor : Option α := none
  tag : Option Octets := none
  deriving Repr

/-- What a document consists of; anchors and aliases are of a type `α`. -/
inductive Tree (α : Type) where
  | aliasOf (target : α)
  | scalar (labels : Labels α) (style : Style) (text : String)
  | list (labels : Labels α) (items : List (Tree α))
  | record (labels : Labels α) (members : List (Tree α × Tree α))
  deriving Repr

instance : Inhabited (Tree α) := ⟨.scalar {} .plain ""⟩

/-- What handles stand for. -/
abbrev Prefixes := List (String × Octets)

/-- What the usual handles stand for unless a directive says otherwise. -/
def usualPrefixes : Prefixes := [("!", octetsOf "!"), ("!!", octetsOf "tag:yaml.org,2002:")]

/-- A tag in full; a handle must stand for something. -/
def Tag.resolve? (prefixes : Prefixes) (t : Tag) : Option Octets :=
  if t.handle = "" then some t.suffix
  else ((prefixes ++ usualPrefixes).lookup t.handle).map (· ++ t.suffix)

/-- A scalar that is not there. -/
def missing : Tree String := .scalar {} .plain ""

/-- The labels in front of a node, at most one of a kind, and what follows them. -/
def labels? (prefixes : Prefixes) : List Token → Option (Labels String × List Token)
  | .anchor a :: .tag t :: ts => do
    let tag ← t.resolve? prefixes
    some (⟨some a, some tag⟩, ts)
  | .tag t :: .anchor a :: ts => do
    let tag ← t.resolve? prefixes
    some (⟨some a, some tag⟩, ts)
  | .anchor a :: ts => some (⟨some a, none⟩, ts)
  | .tag t :: ts => do
    let tag ← t.resolve? prefixes
    some (⟨none, some tag⟩, ts)
  | ts => some ({}, ts)

/-- Whether nothing stands where an item of an indented list may stand. -/
def noItem : List Token → Bool
  | .item :: _ => true
  | .blockEnd :: _ => true
  | _ => false

/-- Whether nothing stands where a part of a member of a block may stand. -/
def noMember : List Token → Bool
  | .key :: _ => true
  | .colon :: _ => true
  | .blockEnd :: _ => true
  | _ => false

/-- Whether nothing stands where an item may stand that is indented like what is around
it. -/
def noItemOrMember (ts : List Token) : Bool := noItem ts || noMember ts

/-- Whether nothing stands where a part of a member between braces may stand; behind a
key there may be a colon only. -/
def noField : List Token → Bool
  | .comma :: _ => true
  | .closeRecord :: _ => true
  | _ => false

/-- Whether nothing stands where the value of a member between square brackets may
stand. -/
def noPair : List Token → Bool
  | .comma :: _ => true
  | .closeList :: _ => true
  | _ => false

/-- Whether the next token is a colon. -/
def atColon : List Token → Bool
  | .colon :: _ => true
  | _ => false

mutual

/-- A node.  Blocks are expected only if `block` is set; `flush` says that items of a
list may be indented like what is around it. -/
def node? (prefixes : Prefixes) (block flush : Bool) (ts : List Token) :
    Nat → Option (Tree String × List Token)
  | 0 => none
  | fuel + 1 => do
    let (labels, rest) ← labels? prefixes ts
    match rest with
    | .aliasOf name :: more =>
      if labels.anchor.isSome || labels.tag.isSome then some (.scalar labels .plain "", rest)
      else some (.aliasOf name, more)
    | .scalar style text :: more => some (.scalar labels style text, more)
    | .openList :: more =>
      let (items, more) ← listItems? prefixes true more fuel
      some (.list labels items, more)
    | .openRecord :: more =>
      let (members, more) ← recordFields? prefixes true more fuel
      some (.record labels members, more)
    | _ =>
      match flush, block, rest with
      | true, _, .item :: _ =>
        let (items, more) ← flushItems? prefixes rest fuel
        some (.list labels items, more)
      | _, true, .blockList :: more =>
        let (items, more) ← blockItems? prefixes more fuel
        some (.list labels items, more)
      | _, true, .blockRecord :: more =>
        let (members, more) ← blockMembers? prefixes more fuel
        some (.record labels members, more)
      | _, _, _ =>
        if labels.anchor.isSome || labels.tag.isSome then some (.scalar labels .plain "", rest)
        else none

/-- The items of an indented list. -/
def blockItems? (prefixes : Prefixes) (ts : List Token) :
    Nat → Option (List (Tree String) × List Token)
  | 0 => none
  | fuel + 1 =>
    match ts with
    | .item :: ts => do
      let (item, ts) ←
        if noItem ts then some (missing, ts) else node? prefixes true false ts fuel
      let (items, ts) ← blockItems? prefixes ts fuel
      some (item :: items, ts)
    | .blockEnd :: ts => some ([], ts)
    | _ => none

/-- The items of a list that is indented like what is around it. -/
def flushItems? (prefixes : Prefixes) (ts : List Token) :
    Nat → Option (List (Tree String) × List Token)
  | 0 => none
  | fuel + 1 =>
    match ts with
    | .item :: ts => do
      let (item, ts) ←
        if noItemOrMember ts then some (missing, ts) else node? prefixes true false ts fuel
      let (items, ts) ← flushItems? prefixes ts fuel
      some (item :: items, ts)
    | _ => some ([], ts)

/-- The members of an indented record. -/
def blockMembers? (prefixes : Prefixes) (ts : List Token) :
    Nat → Option (List (Tree String × Tree String) × List Token)
  | 0 => none
  | fuel + 1 =>
    match ts with
    | .key :: ts => do
      let (key, ts) ←
        if noMember ts then some (missing, ts) else node? prefixes true true ts fuel
      let (value, ts) ← match ts with
        | .colon :: ts =>
          if noMember ts then some (missing, ts) else node? prefixes true true ts fuel
        | ts => some (missing, ts)
      let (members, ts) ← blockMembers? prefixes ts fuel
      some ((key, value) :: members, ts)
    | .blockEnd :: ts => some ([], ts)
    | _ => none

/-- The items between square brackets; `first` says that no item is in front. -/
def listItems? (prefixes : Prefixes) (first : Bool) (ts : List Token) :
    Nat → Option (List (Tree String) × List Token)
  | 0 => none
  | fuel + 1 =>
    match ts with
    | .closeList :: ts => some ([], ts)
    | ts => do
      let ts ← match first, ts with
        | true, ts => some ts
        | false, .comma :: ts => some ts
        | false, _ => none
      match ts with
      | .closeList :: ts => some ([], ts)
      | .key :: ts =>
        let (pair, ts) ← pair? prefixes ts fuel
        let (items, ts) ← listItems? prefixes false ts fuel
        some (.record {} [pair] :: items, ts)
      | ts =>
        let (item, ts) ← node? prefixes false false ts fuel
        let (items, ts) ← listItems? prefixes false ts fuel
        some (item :: items, ts)

/-- A single member between square brackets, behind the token for its key.  If the key
is missing, so is what should follow it, and the token that is there instead is
skipped. -/
def pair? (prefixes : Prefixes) (ts : List Token) :
    Nat → Option ((Tree String × Tree String) × List Token)
  | 0 => none
  | fuel + 1 => do
    let (key, ts) ←
      if atColon ts || noPair ts then some (missing, ts.drop 1)
      else node? prefixes false false ts fuel
    match ts with
    | .colon :: ts =>
      let (value, ts) ←
        if noPair ts then some (missing, ts) else node? prefixes false false ts fuel
      some ((key, value), ts)
    | ts => some ((key, missing), ts)

/-- The members between braces; `first` says that no member is in front. -/
def recordFields? (prefixes : Prefixes) (first : Bool) (ts : List Token) :
    Nat → Option (List (Tree String × Tree String) × List Token)
  | 0 => none
  | fuel + 1 =>
    match ts with
    | .closeRecord :: ts => some ([], ts)
    | ts => do
      let ts ← match first, ts with
        | true, ts => some ts
        | false, .comma :: ts => some ts
        | false, _ => none
      match ts with
      | .closeRecord :: ts => some ([], ts)
      | .key :: ts =>
        let (key, ts) ←
          if atColon ts || noField ts then some (missing, ts)
          else node? prefixes false false ts fuel
        let (value, ts) ← match ts with
          | .colon :: ts =>
            if noField ts then some (missing, ts) else node? prefixes false false ts fuel
          | ts => some (missing, ts)
        let (members, ts) ← recordFields? prefixes false ts fuel
        some ((key, value) :: members, ts)
      | ts =>
        let (key, ts) ← node? prefixes false false ts fuel
        let (members, ts) ← recordFields? prefixes false ts fuel
        some ((key, missing) :: members, ts)

end

/-- The directives in front of a document: whether a version has been given, and what
handles stand for.  Versions other than 1.1 and 1.2 are refused, and so is what is said
twice. -/
def directives? (versioned : Bool) (prefixes : Prefixes) :
    List Token → Option (Prefixes × List Token)
  | .directive (.version major minor) :: ts =>
    if versioned || major ≠ 1 || (minor ≠ 1 && minor ≠ 2) then none
    else directives? true prefixes ts
  | .directive (.tagPrefix handle start) :: ts =>
    if (prefixes.lookup handle).isSome then none
    else directives? versioned ((handle, start) :: prefixes) ts
  | ts => some (prefixes, ts)

/-- Whether a document ends in front of some tokens. -/
def endsDocument : List Token → Bool
  | [] => true
  | .directive _ :: _ => true
  | .documentStart :: _ => true
  | .documentEnd :: _ => true
  | _ => false

/-- The node of a document that has a mark in front of it, behind its directives. -/
def markedDocument? (prefixes : Prefixes) : List Token → Option (Tree String × List Token)
  | .documentStart :: ts =>
    if endsDocument ts then some (missing, ts)
    else node? prefixes true false ts (2 * ts.length + 2)
  | _ => none

/-- The tokens behind marks for the end of a document. -/
def dropEnds : List Token → List Token
  | .documentEnd :: ts => dropEnds ts
  | ts => ts

/-- The only document of some tokens; there may be none. -/
def document? (ts : List Token) : Option (Option (Tree String)) :=
  match ts with
  | [] => some none
  | ts => do
    let (tree, ts) ← match ts with
      | .directive _ :: _ => do
        let (prefixes, ts) ← directives? false [] ts
        markedDocument? prefixes ts
      | .documentStart :: _ => markedDocument? [] ts
      | ts => node? [] true false ts (2 * ts.length + 2)
    if (dropEnds ts).isEmpty then some (some tree) else none

end ClientGen.Yaml
