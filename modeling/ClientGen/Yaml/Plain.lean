import ClientGen.Yaml.Gap

/-!
# Scalars without any quotes

A plain scalar goes on until something follows that cannot be part of it: a colon
behind which a word ends, a comment, a mark between documents, a line that starts
left of the margin, or, between brackets, a bracket or comma.  Blanks and ends of
lines are part of it only if a word follows.
-/

namespace ClientGen.Yaml

/-- A plain scalar, the place where the next thing starts, and whether that is on
another line. -/
structure Plain where
  text : String
  cursor : Cursor
  isBroken : Bool

/-- The characters that end a plain scalar between brackets. -/
def isBracketOrComma (c : Char) : Bool :=
  c == ',' || c == '[' || c == ']' || c == '\x7b' || c == '\x7d'

/-- Whether a colon makes no sense between brackets in front of a text. -/
def isStrayColon : List Char → Bool
  | ':' :: c :: _ => c == '?' || isBracketOrComma c
  | _ => false

/-- Whether a character and what follows it are not part of a plain scalar. -/
def endsPlain (inBrackets : Bool) : List Char → Bool
  | [] => true
  | c :: rest => (c == ':' && endsWord rest) || (inBrackets && isBracketOrComma c)

/-- A plain scalar from a character on that may stand behind a gap; `text` is what has
been read of it, backwards. -/
def scanPlain (inBrackets : Bool) (margin : Nat) (text : List Char) (gap : Gap) (p : Position)
    (rest : List Char) : Option Plain :=
  let found : Plain := ⟨String.ofList text.reverse, ⟨rest, p⟩, gap.isBroken⟩
  match rest with
  | [] => some found
  | c :: cs =>
    if isBlank c then
      if gap.isBroken && p.column < margin && c == '\t' then none
      else scanPlain inBrackets margin text (gap.addBlank c) (p.after c) cs
    else if isBreak c then scanPlain inBrackets margin text (gap.addBreak c) (p.after c) cs
    else if !gap.isEmpty && (c == '#' || (!inBrackets && p.column < margin)) then some found
    else if p.column == 0 && isMarker (c :: cs) then some found
    else if inBrackets && isStrayColon (c :: cs) then none
    else if endsPlain inBrackets (c :: cs) then some found
    else scanPlain inBrackets margin (c :: gap.close text) .empty (p.after c) cs

/-- The plain scalar that starts here. -/
def Cursor.plain? (c : Cursor) (inBrackets : Bool) (margin : Nat) : Option Plain :=
  scanPlain inBrackets margin [] .empty c.place c.rest

end ClientGen.Yaml
