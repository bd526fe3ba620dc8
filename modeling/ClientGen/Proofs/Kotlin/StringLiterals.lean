import ClientGen.Json.Text
import ClientGen.Kotlin.Lexical
import Mathlib.Data.List.Basic

/-!
# What Kotlin reads in a double-quoted string

A string is read from its opening quote to the first quote that no backslash stands in front
of.  A backslash with the character behind it stands for one character, `\u` with four
hexadecimal digits for one UTF-16 code unit; the other characters stand for themselves, except
that no line may end inside a string and that a dollar sign may start a template.  Which texts
make a template of the dollar sign in front of them is left open, as `opens`.

`escapeChar` writes each character so that it is read alone, whatever follows it.  So nothing
of a value ends its literal, joins with what stands next to it or starts a template.

* `codeUnits_append_inj`: the code units of a text say which text it is;
* `readBody_escapeChar`, `readBody_escapeString`: one character of a value, and all of them;
* `isReadAs_stringLiteral_iff`: a whole literal in front of any text.
-/

namespace ClientGen.Kotlin

/-! ### Code units -/

/-- The UTF-16 code units of a character: its code point, or a high and a low surrogate. -/
def codeUnits (c : Char) : List Nat :=
  if c.toNat < 0x10000 then [c.toNat]
  else [0xD800 + (c.toNat - 0x10000) / 0x400, 0xDC00 + (c.toNat - 0x10000) % 0x400]

/-- The code units of a text. -/
def utf16 (cs : List Char) : List Nat := cs.flatMap codeUnits

/-- No code point is a surrogate, and all are less than 110000 in hexadecimal digits. -/
theorem toNat_bounds (c : Char) :
    c.toNat < 0xD800 ∨ 0xDFFF < c.toNat ∧ c.toNat < 0x110000 :=
  c.valid

/-- A character can be told from the code units at the front of a text. -/
theorem codeUnits_append_inj {c d : Char} {as bs : List Nat}
    (h : codeUnits c ++ as = codeUnits d ++ bs) : c = d ∧ as = bs := by
  have hc := toNat_bounds c
  have hd := toNat_bounds d
  unfold codeUnits at h
  by_cases hcshort : c.toNat < 0x10000 <;> by_cases hdshort : d.toNat < 0x10000
  · rw [if_pos hcshort, if_pos hdshort] at h
    obtain ⟨hunit, hrest⟩ := List.cons.inj h
    exact ⟨Char.toNat_inj.mp hunit, hrest⟩
  · -- A surrogate is no code point.
    rw [if_pos hcshort, if_neg hdshort] at h
    have hunit := (List.cons.inj h).1
    omega
  · rw [if_neg hcshort, if_pos hdshort] at h
    have hunit := (List.cons.inj h).1
    omega
  · rw [if_neg hcshort, if_neg hdshort] at h
    obtain ⟨hhigh, htail⟩ := List.cons.inj h
    obtain ⟨hlow, hrest⟩ := List.cons.inj htail
    exact ⟨Char.toNat_inj.mp (by omega), hrest⟩

theorem codeUnits_ne_nil (c : Char) : codeUnits c ≠ [] := by
  unfold codeUnits
  by_cases hshort : c.toNat < 0x10000
  · rw [if_pos hshort]
    exact List.cons_ne_nil _ _
  · rw [if_neg hshort]
    exact List.cons_ne_nil _ _

/-- Different texts have different code units. -/
theorem utf16_injective : Function.Injective utf16 := by
  intro cs ds h
  induction cs generalizing ds with
  | nil =>
      cases ds with
      | nil => rfl
      | cons d ds =>
          have hnil := (List.append_eq_nil_iff.mp h.symm).1
          exact absurd hnil (codeUnits_ne_nil d)
  | cons c cs ih =>
      cases ds with
      | nil =>
          have hnil := (List.append_eq_nil_iff.mp h).1
          exact absurd hnil (codeUnits_ne_nil c)
      | cons d ds =>
          obtain ⟨hhead, htail⟩ := codeUnits_append_inj h
          rw [hhead, ih htail]

/-! ### Reading -/

/-- What comes of reading a string. -/
inductive StringReading where
  /-- The code units between the quotes, and what stands behind the closing one. -/
  | text (units : List Nat) (rest : List Char)
  /-- A dollar sign starts a template. -/
  | template
  /-- A line ends inside, an escape has no meaning, or a quote is missing. -/
  | malformed
  deriving DecidableEq, Repr

/-- What is read with some code units in front. -/
def StringReading.behind (units : List Nat) : StringReading → StringReading
  | .text more rest => .text (units ++ more) rest
  | .template => .template
  | .malformed => .malformed

/-- The character that a backslash makes of the one behind it. -/
def unescaped? : Char → Option Char
  | 't' => some '\t'
  | 'b' => some '\x08'
  | 'n' => some '\n'
  | 'r' => some '\r'
  | '\x27' => some '\x27'
  | '"' => some '"'
  | '\\' => some '\\'
  | '$' => some '$'
  | _ => none

/-- Reads a string behind its opening quote.  A dollar sign starts a template if `opens` says
so of what follows it. -/
def readBody (opens : List Char → Bool) : List Char → StringReading
  | [] => .malformed
  | '"' :: rest => .text [] rest
  | '\\' :: 'u' :: a :: b :: c :: d :: rest =>
    match Json.hexNumber? a b c d with
    | some unit => (readBody opens rest).behind [unit]
    | none => .malformed
  | '\\' :: c :: rest =>
    match unescaped? c with
    | some d => (readBody opens rest).behind (codeUnits d)
    | none => .malformed
  | '$' :: rest => if opens rest then .template else (readBody opens rest).behind (codeUnits '$')
  | c :: rest =>
    if c = '\n' ∨ c = '\r' then .malformed else (readBody opens rest).behind (codeUnits c)

/-- Reads a string. -/
def readString (opens : List Char → Bool) : List Char → StringReading
  | '"' :: rest => readBody opens rest
  | _ => .malformed

/-- A source starts with a string that is free of templates, stands for this value and has
this rest behind it. -/
def IsReadAs (opens : List Char → Bool) (source value rest : String) : Prop :=
  readString opens source.toList = .text (utf16 value.toList) rest.toList

variable {opens : List Char → Bool}

/-- An escaped character is read as what it stands for. -/
theorem readBody_of_unescaped? {c e : Char} (h : unescaped? e = some c) (source : List Char) :
    readBody opens ('\\' :: e :: source) = (readBody opens source).behind (codeUnits c) := by
  have hunicode : e ≠ 'u' := by
    intro heq
    rw [heq] at h
    cases h
  simp [readBody, hunicode, h]

/-- A character without a meaning of its own is read as itself. -/
theorem readBody_of_plain {c : Char} (h : c ∉ ['"', '\\', '$', '\n', '\r']) (source : List Char) :
    readBody opens (c :: source) = (readBody opens source).behind (codeUnits c) := by
  simp only [List.mem_cons, List.not_mem_nil, or_false, not_or] at h
  obtain ⟨hquote, hslash, hdollar, hfeed, hreturn⟩ := h
  simp [readBody, hslash, hfeed, hreturn]

/-- Each character is written behind a backslash, as one that stands for it, or as it is, if
it has no meaning of its own inside a string. -/
theorem escapeChar_eq_or (c : Char) :
    (∃ e, escapeChar c = ['\\', e] ∧ unescaped? e = some c) ∨
      escapeChar c = [c] ∧ c ∉ ['"', '\\', '$', '\n', '\r'] := by
  unfold escapeChar
  split
  · exact .inl ⟨'"', rfl, rfl⟩
  · exact .inl ⟨'\\', rfl, rfl⟩
  · exact .inl ⟨'$', rfl, rfl⟩
  · exact .inl ⟨'n', rfl, rfl⟩
  · exact .inl ⟨'r', rfl, rfl⟩
  · exact .inl ⟨'t', rfl, rfl⟩
  · next hquote hslash hdollar hfeed hreturn _ =>
    refine .inr ⟨rfl, ?_⟩
    simp only [List.mem_cons, List.not_mem_nil, or_false, not_or]
    exact ⟨hquote, hslash, hdollar, hfeed, hreturn⟩

/-- **One character** as it is written is read as that character, whatever follows. -/
theorem readBody_escapeChar (c : Char) (source : List Char) :
    readBody opens (escapeChar c ++ source) = (readBody opens source).behind (codeUnits c) := by
  rcases escapeChar_eq_or c with ⟨e, hwritten, hread⟩ | ⟨hwritten, hplain⟩
  · rw [hwritten]
    exact readBody_of_unescaped? hread source
  · rw [hwritten]
    exact readBody_of_plain hplain source

/-- A whole value as it is written. -/
theorem readBody_flatMap_escapeChar (cs source : List Char) :
    readBody opens (cs.flatMap escapeChar ++ '"' :: source) = .text (utf16 cs) source := by
  induction cs with
  | nil => rfl
  | cons c cs ih =>
      rw [List.flatMap_cons, List.append_assoc, readBody_escapeChar, ih]
      rfl

/-- The inside of a string with the quote behind it. -/
theorem readBody_escapeString (value : String) (source : List Char) :
    readBody opens ((escapeString value ++ "\"").toList ++ source) =
      .text (utf16 value.toList) source := by
  rw [String.toList_append, escapeString, String.toList_ofList, List.append_assoc]
  exact readBody_flatMap_escapeChar value.toList source

/-- Texts are escaped one after the other. -/
theorem escapeString_append (value more : String) :
    escapeString (value ++ more) = escapeString value ++ escapeString more := by
  rw [escapeString, String.toList_append, List.flatMap_append, String.ofList_append]
  rfl

/-- A literal is a quote with the rest of the string behind it. -/
theorem toList_stringLiteral (value : String) :
    (stringLiteral value).toList = '"' :: (escapeString value ++ "\"").toList := by
  rw [stringLiteral, String.append_assoc, String.toList_append]
  rfl

/-- The literal of a value in front of any text is read as that value. -/
theorem isReadAs_stringLiteral (value source : String) :
    IsReadAs opens (stringLiteral value ++ source) value source := by
  rw [IsReadAs, String.toList_append, toList_stringLiteral]
  exact readBody_escapeString value source.toList

/-- **Literals.**  The literal of a value in front of any text is read as that value and as no
other, and what is left is that text. -/
theorem isReadAs_stringLiteral_iff (value source other rest : String) :
    IsReadAs opens (stringLiteral value ++ source) other rest ↔ other = value ∧ rest = source := by
  have hread : readString opens (stringLiteral value ++ source).toList =
      .text (utf16 value.toList) source.toList := isReadAs_stringLiteral value source
  rw [IsReadAs, hread, StringReading.text.injEq]
  constructor
  · intro h
    have hvalue := utf16_injective h.1
    exact ⟨(String.toList_inj.mp hvalue).symm, (String.toList_inj.mp h.2).symm⟩
  · intro h
    rw [h.1, h.2]
    exact ⟨rfl, rfl⟩

/-- A dollar sign that is not escaped may start a template. -/
example : readString (fun _ => true) "\"$ref\"".toList = .template := by decide

/-- The last backslash of a value does not escape the quote behind it. -/
example : stringLiteral "a\\" = "\"a\\\\\"" := by decide +kernel

end ClientGen.Kotlin
