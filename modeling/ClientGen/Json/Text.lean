import ClientGen.Data.Node

/-!
# Quoted texts

The inside of a quoted text is cut into `Unit`s first: characters, and code units
that were written as four hexadecimal digits.  Only then are code units put
together to characters, two where the first is a leading surrogate.  A text that is
passed over need not make sense in that respect, so its units are all that counts.
-/

namespace ClientGen.Json

/-- A piece of a quoted text. -/
inductive Unit where
  | char (c : Char)
  /-- A code unit of sixteen bits. -/
  | code (n : Nat)
  deriving DecidableEq, Repr

/-- The characters that stand for themselves or another one behind a backslash. -/
def escaped? : Char → Option Char
  | '"' => some '"'
  | '\\' => some '\\'
  | '/' => some '/'
  | 'b' => some '\x08'
  | 'f' => some '\x0c'
  | 'n' => some '\n'
  | 'r' => some '\r'
  | 't' => some '\t'
  | _ => none

/-- The value of a hexadecimal digit. -/
def hexValue? (c : Char) : Option Nat :=
  if c.isDigit then some (c.toNat - '0'.toNat)
  else if 'a' ≤ c ∧ c ≤ 'f' then some (c.toNat - 'a'.toNat + 10)
  else if 'A' ≤ c ∧ c ≤ 'F' then some (c.toNat - 'A'.toNat + 10)
  else none

/-- The number that four hexadecimal digits stand for. -/
def hexNumber? (a b c d : Char) : Option Nat := do
  let a ← hexValue? a
  let b ← hexValue? b
  let c ← hexValue? c
  let d ← hexValue? d
  return ((a * 16 + b) * 16 + c) * 16 + d

/-- Whether a text has fewer than four bytes. -/
def isShort (cs : List Char) : Bool := (String.ofList (cs.take 4)).utf8ByteSize < 4

/-- The rest of a text, shorter than where reading started. -/
abbrev Rest (cs : List Char) := { rest : List Char // rest.length < cs.length }

/-- The units of a quoted text up to the quote, and what follows it or why there is none. -/
structure Quoted (cs : List Char) where
  units : List Unit
  rest : Except Fault { rest : List Char // rest.length ≤ cs.length }

namespace Quoted

/-- One unit in front of a quoted text that starts later. -/
def push (u : Unit) {cs ds : List Char} (h : ds.length ≤ cs.length) (q : Quoted ds) : Quoted cs :=
  ⟨u :: q.units, q.rest.map fun r => ⟨r.1, Nat.le_trans r.2 h⟩⟩

/-- No unit at all. -/
def stop (f : Fault) {cs : List Char} : Quoted cs := ⟨[], .error f⟩

end Quoted

/-- Reads a quoted text behind its first quote. -/
def scanQuoted : (cs : List Char) → Quoted cs
  | [] => .stop .truncated
  | '"' :: rest => ⟨[], .ok ⟨rest, by simp⟩⟩
  | '\\' :: [] => .stop .truncated
  | '\\' :: 'u' :: rest =>
    if isShort rest then .stop .truncated
    else
      match rest with
      | a :: b :: c :: d :: rest =>
        match hexNumber? a b c d with
        | some n => (scanQuoted rest).push (.code n) (by simp; omega)
        | none => .stop .malformed
      | _ => .stop .malformed
  | '\\' :: c :: rest =>
    match escaped? c with
    | some d => (scanQuoted rest).push (.char d) (by simp; omega)
    | none => .stop .malformed
  | c :: rest =>
    if c.toNat < 32 then .stop .malformed
    else (scanQuoted rest).push (.char c) (by simp)

/-- What the units of a text make. -/
inductive Joined where
  | text (cs : List Char)
  /-- A surrogate stands alone. -/
  | lone
  /-- The last unit is a leading surrogate. -/
  | open
  deriving DecidableEq, Repr

/-- One character more in front. -/
def Joined.cons (c : Char) : Joined → Joined
  | text cs => text (c :: cs)
  | lone => lone
  | «open» => «open»

/-- Whether a code unit is the first of two. -/
def isLeading (n : Nat) : Bool := 0xD800 ≤ n && n ≤ 0xDBFF

/-- Whether a code unit is the second of two. -/
def isTrailing (n : Nat) : Bool := 0xDC00 ≤ n && n ≤ 0xDFFF

/-- The characters that units stand for. -/
def join : List Unit → Joined
  | [] => .text []
  | .char c :: rest => (join rest).cons c
  | [.code n] =>
    if isLeading n then .open else if isTrailing n then .lone else .text [Char.ofNat n]
  | .code n :: .code m :: rest =>
    if isLeading n then
      if isTrailing m then
        (join rest).cons (Char.ofNat (0x10000 + (n - 0xD800) * 0x400 + (m - 0xDC00)))
      else .lone
    else if isTrailing n then .lone
    else (join (.code m :: rest)).cons (Char.ofNat n)
  | .code n :: .char c :: rest =>
    if isLeading n || isTrailing n then .lone
    else (join (.char c :: rest)).cons (Char.ofNat n)

/-- The scalar for a text. -/
def textScalar (s : String) : Scalar where
  text? := some s
  word? := some s
  value? := some (.text s)

/-- The node of a text that was closed. -/
def closedText (units : List Unit) : Node :=
  match join units with
  | .text cs => .scalar (textScalar (String.ofList cs))
  | .lone => .unreadable .malformed none
  | .open => .unreadable .malformed none

/-- The stop of a text that was not closed. -/
def openText (units : List Unit) (f : Fault) : Stop :=
  match join units with
  | .text _ => f.stop
  | .lone => ⟨.malformed, f⟩
  | .open => f.stop

end ClientGen.Json
