import ClientGen.Kotlin.Lexical
import ClientGen.Unique
import Mathlib.Data.List.Basic

/-!
# What Kotlin reads as one identifier

A plain identifier is one unless it is a hard keyword, and so is any text between
backticks that is free of some characters: of backticks in any case, and for the machine
the names end up in also of `forbiddenChars` and line breaks.  `IsIdentifier` leaves open
which characters these are.

* `isIdentifier_escapeIdentifier`: what `escapeIdentifier` makes of a name;
* `escapeIdentifier_isToken_iff`: which names it makes identifiers for every purpose;
* `escapeIdentifier_injective`: names that hold nothing it replaces stay different;
* `isIdentifier_numbered_iff`: an identifier with a number behind it.
-/

namespace ClientGen.Kotlin

/-- A text that is read as one identifier, if these characters may not stand between
backticks. -/
inductive IsIdentifier (refused : List Char) (s : String) : Prop
  | plain (hplain : isPlainIdentifier s.toList = true) (hword : s ∉ hardKeywords)
  | quoted {cs : List Char} (hne : cs ≠ []) (hcs : ∀ c ∈ cs, c ∉ refused)
      (hs : s = backticked cs)

/-- The characters that end a line. -/
def lineBreaks : List Char := ['\r', '\n']

variable {refused : List Char} {name : String} {cs : List Char}

theorem toList_backticked (cs : List Char) :
    (backticked cs).toList = '\x60' :: (cs ++ ['\x60']) :=
  String.toList_ofList

theorem backticked_injective : Function.Injective backticked := by
  intro as bs h
  have hchars := congrArg String.toList h
  rw [toList_backticked, toList_backticked] at hchars
  exact List.append_cancel_right (List.cons.inj hchars).2

/-- A plain identifier has letters, digits and underscores only. -/
theorem isIdentifierPart_of_mem {c : Char} (h : isPlainIdentifier cs = true) (hc : c ∈ cs) :
    isIdentifierPart c = true := by
  cases cs with
  | nil => cases hc
  | cons first rest =>
      obtain ⟨hfirst, hrest⟩ := (Bool.and_eq_true _ _).mp h
      rcases List.mem_cons.mp hc with rfl | hc
      · simp only [isIdentifierStart, Char.isAlphanum, isIdentifierPart,
          Bool.or_eq_true] at hfirst ⊢
        exact hfirst.imp_left .inl
      · exact List.all_eq_true.mp hrest c hc

/-- None of these is forbidden. -/
theorem not_forbidden_of_isIdentifierPart {c : Char} (h : isIdentifierPart c = true) :
    c ∉ forbiddenChars := by
  have hall : forbiddenChars.all (fun d => !isIdentifierPart d) = true := by decide
  intro hc
  have hpart := List.all_eq_true.mp hall c hc
  rw [h] at hpart
  cases hpart

/-! ### Escaping -/

/-- What goes between backticks is refused nowhere, if an underscore is not and all that is
refused in the name is replaced by one. -/
theorem not_refused_quotedChar {c : Char} (hblank : '_' ∉ refused)
    (hc : c ∈ refused → c ∈ forbiddenChars) : quotedChar c ∉ refused := by
  unfold quotedChar
  by_cases hforbidden : c ∈ forbiddenChars
  · rw [if_pos hforbidden]
    exact hblank
  · rw [if_neg hforbidden]
    exact fun h => hforbidden (hc h)

/-- **Escaping.**  Every name becomes an identifier, if all that is refused in it is
forbidden and so replaced. -/
theorem isIdentifier_escapeIdentifier (hblank : '_' ∉ refused)
    (hname : ∀ c ∈ name.toList, c ∈ refused → c ∈ forbiddenChars) :
    IsIdentifier refused (escapeIdentifier name) := by
  rw [escapeIdentifier]
  by_cases hempty : name = ""
  · rw [if_pos hempty]
    exact .quoted (by simp) (fun c hc => by rwa [List.mem_singleton.mp hc]) rfl
  have hne : name.toList ≠ [] := fun h => hempty (String.toList_inj.mp h)
  rw [if_neg hempty]
  by_cases hplain : isPlainIdentifier name.toList = true
  · rw [if_pos hplain]
    by_cases hword : name ∈ hardKeywords
    · rw [if_pos hword]
      have hparts : ∀ c ∈ name.toList, c ∉ refused := fun c hc hrefused =>
        not_forbidden_of_isIdentifierPart (isIdentifierPart_of_mem hplain hc)
          (hname c hc hrefused)
      exact .quoted hne hparts rfl
    · rw [if_neg hword]
      exact .plain hplain hword
  · rw [if_neg hplain]
    refine .quoted (by simpa using hne) (fun c hc => ?_) rfl
    obtain ⟨d, hd, rfl⟩ := List.mem_map.mp hc
    exact not_refused_quotedChar hblank (hname d hd)

/-- Where nothing has to be replaced, a name stays or goes between backticks as it is. -/
theorem escapeIdentifier_eq_or (hne : name ≠ "") (hname : ∀ c ∈ name.toList, c ∉ forbiddenChars) :
    escapeIdentifier name = name ∨ escapeIdentifier name = backticked name.toList := by
  have hsame : name.toList.map quotedChar = name.toList := by
    refine (List.map_congr_left fun c hc => ?_).trans (List.map_id _)
    rw [quotedChar, if_neg (hname c hc)]
    rfl
  rw [escapeIdentifier, if_neg hne, hsame]
  by_cases hplain : isPlainIdentifier name.toList = true
  · rw [if_pos hplain]
    by_cases hword : name ∈ hardKeywords
    · exact .inr (if_pos hword)
    · exact .inl (if_neg hword)
  · exact .inr (if_neg hplain)

/-- **Escaping keeps names apart** that hold nothing it replaces. -/
theorem escapeIdentifier_injective {other : String} (hne : name ≠ "") (hother : other ≠ "")
    (hname : ∀ c ∈ name.toList, c ∉ forbiddenChars)
    (hotherName : ∀ c ∈ other.toList, c ∉ forbiddenChars)
    (h : escapeIdentifier name = escapeIdentifier other) : name = other := by
  have hbacktick : ∀ cs : List Char, '\x60' ∈ (backticked cs).toList := fun cs => by
    rw [toList_backticked]
    exact List.mem_cons_self
  have hforbidden : '\x60' ∈ forbiddenChars := by decide
  rcases escapeIdentifier_eq_or hne hname with hleft | hleft <;>
    rcases escapeIdentifier_eq_or hother hotherName with hright | hright <;>
    rw [hleft, hright] at h
  · exact h
  · exact absurd hforbidden (hname _ (h ▸ hbacktick other.toList))
  · exact absurd hforbidden (hotherName _ (h ▸ hbacktick name.toList))
  · exact String.toList_inj.mp (backticked_injective h)

/-! ### Numbers behind identifiers -/

/-- A text that starts with a backtick. -/
def isQuoted (s : String) : Bool := s.toList.head? == some '\x60'

theorem isQuoted_backticked (cs : List Char) : isQuoted (backticked cs) = true := by
  rw [isQuoted, toList_backticked]
  rfl

theorem isQuoted_of_isPlainIdentifier (h : isPlainIdentifier name.toList = true) :
    isQuoted name = false := by
  rw [isQuoted]
  cases hchars : name.toList with
  | nil => rfl
  | cons c rest =>
      rw [hchars] at h
      have hstart := ((Bool.and_eq_true _ _).mp h).1
      have hbacktick : isIdentifierStart '\x60' = false := by decide
      have hne : c ≠ '\x60' := by
        intro heq
        rw [heq, hbacktick] at hstart
        cases hstart
      simp [hne]

/-- A name as it is spelled before it is made unique: neither empty nor a hard keyword, and
quoted only as a whole. -/
structure IsSpelled (name : String) : Prop where
  ne_empty : name ≠ ""
  not_keyword : name ∉ hardKeywords
  backticked : isQuoted name = true → ∃ cs, name = backticked cs

/-- Every identifier that is made by escaping is spelled so. -/
theorem isSpelled_escapeIdentifier (name : String) : IsSpelled (escapeIdentifier name) := by
  have hquoted : ∀ cs, IsSpelled (Kotlin.backticked cs) := by
    intro cs
    have hkeywords : ∀ word ∈ hardKeywords, isQuoted word = false := by decide
    refine ⟨fun h => ?_, fun h => ?_, fun _ => ⟨cs, rfl⟩⟩
    · have hhead := isQuoted_backticked cs
      rw [h] at hhead
      cases hhead
    · cases (hkeywords _ h).symm.trans (isQuoted_backticked cs)
  rw [escapeIdentifier]
  by_cases hempty : name = ""
  · rw [if_pos hempty]
    exact hquoted _
  rw [if_neg hempty]
  by_cases hplain : isPlainIdentifier name.toList = true
  · rw [if_pos hplain]
    by_cases hword : name ∈ hardKeywords
    · rw [if_pos hword]
      exact hquoted _
    · rw [if_neg hword]
      refine ⟨hempty, hword, fun h => ?_⟩
      cases (isQuoted_of_isPlainIdentifier hplain).symm.trans h
  · rw [if_neg hplain]
    exact hquoted _

theorem toList_numbered (name : String) (n : Nat) :
    (numbered "_" name n).toList = name.toList ++ '_' :: Nat.toDigits 10 n := by
  have hmark : "_".toList = ['_'] := by decide
  rw [numbered, String.toList_append, String.toList_append, hmark,
    Nat.toString_eq_ofList_toDigits, String.toList_ofList, List.append_assoc,
    List.singleton_append]

/-- What has a number behind it ends with a digit. -/
theorem exists_getLast?_numbered (name : String) (n : Nat) :
    ∃ d, d.isDigit = true ∧ (numbered "_" name n).toList.getLast? = some d := by
  rw [toList_numbered, List.append_cons, List.getLast?_append]
  cases hdigits : (Nat.toDigits 10 n).getLast? with
  | none => exact absurd (List.getLast?_eq_none_iff.mp hdigits) Nat.toDigits_ne_nil
  | some d =>
      exact ⟨d, Nat.isDigit_of_mem_toDigits (by omega) (by omega) (List.mem_of_getLast? hdigits),
        rfl⟩

/-- So it does not end with a backtick. -/
theorem numbered_ne_backticked (name : String) (n : Nat) (cs : List Char) :
    numbered "_" name n ≠ backticked cs := by
  intro h
  obtain ⟨d, hdigit, hlast⟩ := exists_getLast?_numbered name n
  rw [h, toList_backticked, ← List.cons_append, List.getLast?_concat, Option.some.injEq] at hlast
  rw [← hlast] at hdigit
  cases hdigit

theorem isIdentifierPart_digit {c : Char} (h : c.isDigit = true) : isIdentifierPart c = true := by
  rw [isIdentifierPart, Char.isAlphanum, h, Bool.or_true, Bool.true_or]

/-- A number behind a name changes nothing about its being plain. -/
theorem isPlainIdentifier_numbered_iff (hne : name ≠ "") (n : Nat) :
    isPlainIdentifier (numbered "_" name n).toList = true ↔
      isPlainIdentifier name.toList = true := by
  have hdigits : ('_' :: Nat.toDigits 10 n).all isIdentifierPart = true := by
    refine List.all_eq_true.mpr fun c hc => ?_
    rcases List.mem_cons.mp hc with rfl | hc
    · decide
    · exact isIdentifierPart_digit (Nat.isDigit_of_mem_toDigits (by omega) (by omega) hc)
  rw [toList_numbered]
  cases hchars : name.toList with
  | nil => exact absurd (String.toList_inj.mp hchars) hne
  | cons c rest =>
      rw [List.cons_append, isPlainIdentifier, isPlainIdentifier, List.all_append, hdigits,
        Bool.and_true]

/-- **Numbers.**  A spelled name with a number behind it is an identifier exactly if the name
is one by itself and is not quoted. -/
theorem isIdentifier_numbered_iff (h : IsSpelled name) (n : Nat) :
    IsIdentifier refused (numbered "_" name n) ↔
      IsIdentifier refused name ∧ isQuoted name = false := by
  constructor
  · intro hnumbered
    cases hnumbered with
    | plain hplain _ =>
        have hname := (isPlainIdentifier_numbered_iff h.ne_empty n).mp hplain
        exact ⟨.plain hname h.not_keyword, isQuoted_of_isPlainIdentifier hname⟩
    | quoted _ _ hs => exact absurd hs (numbered_ne_backticked name n _)
  · rintro ⟨hname, hunquoted⟩
    cases hname with
    | plain hplain _ =>
        refine .plain ((isPlainIdentifier_numbered_iff h.ne_empty n).mpr hplain) fun hword => ?_
        have hkeywords : ∀ word ∈ hardKeywords, '_' ∉ word.toList := by decide
        refine hkeywords _ hword ?_
        rw [toList_numbered]
        exact List.mem_append_right _ List.mem_cons_self
    | quoted _ _ hs =>
        rw [hs, isQuoted_backticked] at hunquoted
        cases hunquoted

/-! ### Line breaks -/

/-- If what is refused is no part of plain identifiers, a name becomes an identifier exactly if
all that is refused in it is forbidden and so replaced. -/
theorem isIdentifier_escapeIdentifier_iff
    (hrefused : ∀ c ∈ refused, isIdentifierPart c = false) :
    IsIdentifier refused (escapeIdentifier name) ↔
      ∀ c ∈ name.toList, c ∈ refused → c ∈ forbiddenChars := by
  have hblank : '_' ∉ refused := fun h => absurd (hrefused '_' h) (by decide)
  refine ⟨fun h c hc hcrefused => ?_, isIdentifier_escapeIdentifier hblank⟩
  by_contra hkept
  -- A character that is refused and kept would have to stand between the backticks.
  have hne : name ≠ "" := by
    rintro rfl
    cases hc
  have hquoted : ¬isPlainIdentifier name.toList = true := by
    intro hplain
    cases (isIdentifierPart_of_mem hplain hc).symm.trans (hrefused c hcrefused)
  have hmem : c ∈ name.toList.map quotedChar := List.mem_map.mpr ⟨c, hc, if_neg hkept⟩
  rw [escapeIdentifier, if_neg hne, if_neg hquoted] at h
  cases h with
  | plain hplain _ =>
      cases (isQuoted_of_isPlainIdentifier hplain).symm.trans (isQuoted_backticked _)
  | quoted _ hcs hs => exact hcs c (backticked_injective hs ▸ hmem) hcrefused

/-- Neither line breaks nor forbidden characters are part of plain identifiers. -/
theorem isIdentifierPart_of_mem_refused {c : Char} (h : c ∈ lineBreaks ++ forbiddenChars) :
    isIdentifierPart c = false := by
  have hall : (lineBreaks ++ forbiddenChars).all (fun d => !isIdentifierPart d) = true := by decide
  simpa using List.all_eq_true.mp hall c h

/-- The ends of lines are not among the characters that are replaced. -/
theorem not_forbidden_of_lineBreak {c : Char} (h : c ∈ lineBreaks) : c ∉ forbiddenChars := by
  have hall : lineBreaks.all (fun d => decide (d ∉ forbiddenChars)) = true := by decide
  exact of_decide_eq_true (List.all_eq_true.mp hall c h)

/-- **Tokens.**  Every name becomes a plain identifier that is no hard keyword, or a text between
backticks that is not empty and holds no forbidden character.  It holds no line break either
exactly if the name does not. -/
theorem escapeIdentifier_isToken_iff (name : String) :
    IsIdentifier forbiddenChars (escapeIdentifier name) ∧
      (IsIdentifier (lineBreaks ++ forbiddenChars) (escapeIdentifier name) ↔
        ∀ c ∈ name.toList, c ∉ lineBreaks) := by
  constructor
  · exact isIdentifier_escapeIdentifier (by decide) fun _ _ h => h
  · rw [isIdentifier_escapeIdentifier_iff fun _ => isIdentifierPart_of_mem_refused]
    refine forall₂_congr fun c _ => ⟨fun h hc => ?_, fun h hc => ?_⟩
    · exact not_forbidden_of_lineBreak hc (h (List.mem_append_left _ hc))
    · exact (List.mem_append.mp hc).resolve_left h

/-- A line break stays where it is, and the identifier ends there. -/
theorem not_isIdentifier_of_lineBreak :
    escapeIdentifier "on\nhold" = backticked "on\nhold".toList ∧
      ¬IsIdentifier (lineBreaks ++ forbiddenChars) (escapeIdentifier "on\nhold") := by
  refine ⟨by decide +kernel, ?_⟩
  rw [isIdentifier_escapeIdentifier_iff fun _ => isIdentifierPart_of_mem_refused]
  intro h
  exact absurd (h '\n' (by decide) (by decide)) (by decide)

end ClientGen.Kotlin
