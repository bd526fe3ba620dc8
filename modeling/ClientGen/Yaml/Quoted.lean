import ClientGen.Yaml.Gap

/-!
# Scalars between quotes

Between single quotes a quote is written twice and nothing else is special.  Between
double quotes a backslash escapes a character, gives one by its code, or hides the
end of a line.  A mark between documents must not stand inside quotes.
-/

namespace ClientGen.Yaml

/-- The character that a backslash and a letter stand for. -/
def escaped? : Char → Option Char
  | '0' => some '\x00'
  | 'a' => some '\x07'
  | 'b' => some '\x08'
  | 't' => some '\t'
  | '\t' => some '\t'
  | 'n' => some '\n'
  | 'v' => some '\x0b'
  | 'f' => some '\x0c'
  | 'r' => some '\r'
  | 'e' => some '\x1b'
  | ' ' => some ' '
  | '"' => some '"'
  | '/' => some '/'
  | '\\' => some '\\'
  | 'N' => some '\x85'
  | '_' => some '\xa0'
  | 'L' => some '\u2028'
  | 'P' => some '\u2029'
  | _ => none

/-- How many digits the code behind a backslash and a letter has. -/
def codeLength? : Char → Option Nat
  | 'x' => some 2
  | 'u' => some 4
  | 'U' => some 8
  | _ => none

/-- The value of a hexadecimal digit. -/
def hexValue? (c : Char) : Option Nat :=
  if c.isDigit then some (c.toNat - '0'.toNat)
  else if 'a' ≤ c ∧ c ≤ 'f' then some (c.toNat - 'a'.toNat + 10)
  else if 'A' ≤ c ∧ c ≤ 'F' then some (c.toNat - 'A'.toNat + 10)
  else none

/-- The character of a code, if there is one. -/
def ofCode? (n : Nat) : Option Char := if n.isValidChar then some (Char.ofNat n) else none

/-- The rest of a scalar between single quotes; `text` is what has been read of it,
backwards. -/
def scanSingle (text : List Char) (gap : Gap) (p : Position) :
    List Char → Option (String × Cursor)
  | [] => none
  | c :: cs =>
    if p.column == 0 && isMarker (c :: cs) then none
    else if isBlank c then scanSingle text (gap.addBlank c) (p.after c) cs
    else if isBreak c then scanSingle text (gap.addBreak c) (p.after c) cs
    else if c == '\'' then
      match cs with
      | '\'' :: more =>
        scanSingle ('\'' :: gap.close text) .empty ((p.after c).after '\'') more
      | _ => some (String.ofList (gap.close text).reverse, ⟨cs, p.after c⟩)
    else scanSingle (c :: gap.close text) .empty (p.after c) cs

/-- The rest of a scalar between double quotes; `code` is the code that is being read,
if there is one, as the number of its digits that are missing and the value of the
others. -/
def scanDouble (code : Option (Nat × Nat)) (text : List Char) (gap : Gap) (p : Position) :
    List Char → Option (String × Cursor)
  | [] => none
  | c :: cs =>
    match code with
    | some (missing, value) =>
      match hexValue? c with
      | none => none
      | some digit =>
        let value := 16 * value + digit
        if missing ≤ 1 then
          match ofCode? value with
          | some x => scanDouble none (x :: text) .empty (p.after c) cs
          | none => none
        else scanDouble (some (missing - 1, value)) text .empty (p.after c) cs
    | none =>
      if p.column == 0 && isMarker (c :: cs) then none
      else if isBlank c then scanDouble none text (gap.addBlank c) (p.after c) cs
      else if isBreak c then scanDouble none text (gap.addBreak c) (p.after c) cs
      else if c == '"' then some (String.ofList (gap.close text).reverse, ⟨cs, p.after c⟩)
      else if c == '\\' then
        match cs with
        | [] => none
        | d :: more =>
          let text := gap.close text
          let p := (p.after c).after d
          if isBreak d then scanDouble none text (.breaks none []) p more
          else
            match escaped? d, codeLength? d with
            | some x, _ => scanDouble none (x :: text) .empty p more
            | none, some n => scanDouble (some (n, 0)) text .empty p more
            | none, none => none
      else scanDouble none (c :: gap.close text) .empty (p.after c) cs

/-- The scalar behind a quote. -/
def Cursor.quoted? (c : Cursor) (double : Bool) : Option (String × Cursor) :=
  if double then scanDouble none [] .empty c.place c.rest
  else scanSingle [] .empty c.place c.rest

end ClientGen.Yaml
