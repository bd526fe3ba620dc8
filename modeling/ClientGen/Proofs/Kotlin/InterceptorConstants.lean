import ClientGen.Proofs.Kotlin.StringLiterals
import ClientGen.Proofs.Kotlin.UnescapedNames
import ClientGen.Proofs.Outcome

/-!
# The constants of the interceptor

The interceptor declares a constant for its marker and one for each scheme.  The keys of
schemes may have the same words, so the constants of schemes are made unique; the constant of
the marker is not among the names that this pass knows.  It is kept apart twice: a key that
would give it gets an ending of its own before the pass, and what the pass adds ends with a
digit, which the marker does not.

The constants are read off the source line by line.  No constant and no literal holds a line
feed, so the lines of the source are those that were written, and only the lines of constants
start like a declaration of one.

* `declaredConstants`: the constants that a source declares;
* `declaredConstants_of_isPlainLine`: lines that are read as they were written;
* `declaredConstants_interceptorLines`: those that are written for some schemes;
* `ne_markerConstant_of_isGivenFor`: no scheme takes the constant of the marker;
* `interceptorConstants_differ`: the interceptor of a document.
-/

namespace ClientGen.Kotlin

open Naming (words)
open Text (IsWordChar IsNameChar)

variable {line name key constant : String}

/-! ### Reading constants -/

/-- How the declaration of a constant starts. -/
def constantMark : List Char := ['c', 'o', 'n', 's', 't', ' ', 'v', 'a', 'l', ' ']

/-- A name and a value with an equals sign between them. -/
def namedValue (code : List Char) : String × String :=
  (.ofList (code.takeWhile (· ≠ ' ')), .ofList ((code.dropWhile (· ≠ ' ')).drop 3))

/-- The name of the constant that a line declares, and its value as it is written. -/
def declaredConstant? (line : List Char) : Option (String × String) :=
  let code := line.dropWhile (· = ' ')
  if constantMark.isPrefixOf code then some (namedValue (code.drop constantMark.length)) else none

/-- The constants that a source declares, line by line. -/
def declaredConstants (source : String) : List (String × String) :=
  (source.toList.splitOn '\n').filterMap declaredConstant?

/-- The line of a constant. -/
def constantLine (name value : String) : String := "    const val " ++ name ++ " = " ++ value

theorem constantLine_eq (name value : String) :
    constantLine name value = "    const val " ++ name ++ " = " ++ value := rfl

/-- A name and a value are read back from between them. -/
theorem namedValue_append (hname : ' ' ∉ name.toList) (value : String) :
    namedValue (name.toList ++ ' ' :: '=' :: ' ' :: value.toList) = (name, value) := by
  have hletters : ∀ c ∈ name.toList, decide (c ≠ ' ') = true := by
    intro c hc
    exact decide_eq_true fun heq => hname (heq ▸ hc)
  have htake : (' ' :: '=' :: ' ' :: value.toList).takeWhile (· ≠ ' ') = [] := rfl
  have hdrop : (' ' :: '=' :: ' ' :: value.toList).dropWhile (· ≠ ' ') =
      ' ' :: '=' :: ' ' :: value.toList := rfl
  rw [namedValue, List.takeWhile_append_of_pos hletters, List.dropWhile_append_of_pos hletters,
    htake, hdrop, List.append_nil, String.ofList_toList]
  exact congrArg (Prod.mk name) String.ofList_toList

/-- A constant is read back from its line. -/
theorem declaredConstant?_constantLine (hname : ' ' ∉ name.toList) (value : String) :
    declaredConstant? (constantLine name value).toList = some (name, value) := by
  have hfront : "    const val ".toList = ' ' :: ' ' :: ' ' :: ' ' :: constantMark :=
    String.toList_ofList
  have hequals : " = ".toList = [' ', '=', ' '] := String.toList_ofList
  have hline : (constantLine name value).toList =
      ' ' :: ' ' :: ' ' :: ' ' ::
        (constantMark ++ (name.toList ++ ' ' :: '=' :: ' ' :: value.toList)) := by
    rw [constantLine_eq, String.toList_append, String.toList_append, String.toList_append,
      List.append_assoc, List.append_assoc]
    exact congrArg₂ (· ++ ·) hfront
      (congrArg (name.toList ++ ·) (congrArg (· ++ value.toList) hequals))
  have hcode : (constantLine name value).toList.dropWhile (· = ' ') =
      constantMark ++ (name.toList ++ ' ' :: '=' :: ' ' :: value.toList) := by
    rw [hline]
    rfl
  have hmark : constantMark.isPrefixOf
      (constantMark ++ (name.toList ++ ' ' :: '=' :: ' ' :: value.toList)) = true :=
    List.isPrefixOf_iff_prefix.mpr (List.prefix_append _ _)
  rw [declaredConstant?, hcode, if_pos hmark, List.drop_left, namedValue_append hname]

/-- A line that starts with another letter declares no constant. -/
theorem declaredConstant?_eq_none {line : List Char}
    (h : (line.dropWhile (· = ' ')).head? ≠ some 'c') : declaredConstant? line = none := by
  refine if_neg fun hmark => h ?_
  obtain ⟨rest, hrest⟩ := List.isPrefixOf_iff_prefix.mp hmark
  rw [← hrest]
  rfl

/-- A text without a line feed. -/
def IsOneLine (s : String) : Prop := '\n' ∉ s.toList

theorem isOneLine_ofList {cs : List Char} (h : '\n' ∉ cs) : IsOneLine (String.ofList cs) := by
  rwa [IsOneLine, String.toList_ofList]

/-- Two texts on one line are one line together. -/
theorem IsOneLine.append {a b : String} (ha : IsOneLine a) (hb : IsOneLine b) :
    IsOneLine (a ++ b) := by
  rw [IsOneLine, String.toList_append, List.mem_append]
  exact fun h => h.elim ha hb

/-- A constant is written on one line if its name and its value are. -/
theorem isOneLine_constantLine {value : String} (hname : IsOneLine name)
    (hvalue : IsOneLine value) : IsOneLine (constantLine name value) := by
  have hfront : IsOneLine "    const val " := isOneLine_ofList (by decide)
  have hequals : IsOneLine " = " := isOneLine_ofList (by decide)
  exact ((hfront.append hname).append hequals).append hvalue

/-- The lines that were put together are those that are read. -/
theorem declaredConstants_intercalate {lines : List String} (hne : lines ≠ [])
    (h : ∀ line ∈ lines, IsOneLine line) :
    declaredConstants ("\n".intercalate lines) =
      lines.filterMap fun line => declaredConstant? line.toList := by
  have hfeed : "\n".toList = ['\n'] := by decide
  rw [declaredConstants, String.toList_intercalate, hfeed,
    List.splitOn_intercalate '\n' (List.forall_mem_map.mpr h) (by simpa using hne),
    List.filterMap_map]
  rfl

/-! ### Characters of names and literals -/

/-- A character of a constant: a word character or an underscore. -/
def IsConstantChar (c : Char) : Prop := IsWordChar c ∨ c = '_'

theorem IsConstantChar.not_mem_gaps {c : Char} (h : IsConstantChar c) : c ∉ [' ', '\n'] := by
  intro hc
  simp only [List.mem_cons, List.not_mem_nil, or_false] at hc
  rcases hc with rfl | rfl <;> exact absurd h (by unfold IsConstantChar IsWordChar; decide)

theorem blank_not_mem_of_isConstantChar (h : ∀ c ∈ name.toList, IsConstantChar c) :
    ' ' ∉ name.toList :=
  fun hc => (h _ hc).not_mem_gaps (by simp)

theorem isOneLine_of_isConstantChar (h : ∀ c ∈ name.toList, IsConstantChar c) : IsOneLine name :=
  fun hc => (h _ hc).not_mem_gaps (by simp)

theorem isConstantChar_of_isIdentifierPart {c : Char} (h : isIdentifierPart c = true) :
    IsConstantChar c := by
  rw [isIdentifierPart, Bool.or_eq_true, beq_iff_eq] at h
  exact h.imp_left .inl

/-- The words of a key in uppercase, with underscores between them. -/
theorem isConstantChar_of_mem_screaming {c : Char} (hc : c ∈ (Name.ofText key).screaming.toList) :
    IsConstantChar c := by
  have hwords : ∀ word ∈ (words key).map Naming.uppered, ∀ d ∈ word, IsConstantChar d := by
    refine List.forall_mem_map.mpr fun word hword d hd => ?_
    exact .inl (Naming.isWord_uppered (Naming.isWord_of_mem_words hword) d hd)
  have hscreaming : (Name.ofText key).screaming =
      Naming.underscored ((words key).map Naming.uppered) := rfl
  rw [hscreaming] at hc
  generalize (words key).map Naming.uppered = ws at hwords hc
  cases ws with
  | nil => cases hc
  | cons word ws =>
      obtain ⟨hword, hrest⟩ := List.forall_mem_cons.mp hwords
      rw [Naming.toList_underscored_cons] at hc
      rcases List.mem_append.mp hc with hc | hc
      · exact hword c hc
      · obtain ⟨next, hnext, hc⟩ := List.mem_flatMap.mp hc
        rcases List.mem_cons.mp hc with rfl | hc
        · exact .inr rfl
        · exact hrest next hnext c hc

/-- A string literal is one line, whatever its value is. -/
theorem isOneLine_stringLiteral (value : String) : IsOneLine (stringLiteral value) := by
  have hescaped : ∀ c, '\n' ∉ escapeChar c := by
    intro c hc
    rcases escapeChar_eq_or c with ⟨e, hwritten, hread⟩ | ⟨hwritten, hplain⟩
    · rw [hwritten] at hc
      have he : '\n' = e := by simpa using hc
      rw [← he] at hread
      cases hread
    · rw [hwritten] at hc
      rw [← List.mem_singleton.mp hc] at hplain
      exact hplain (by decide)
  simp [IsOneLine, stringLiteral, escapeString, hescaped]

theorem isOneLine_placeText (place : CredentialPlace) : IsOneLine place.text := by
  have hliteral := isOneLine_stringLiteral
  have hclose : IsOneLine ")" := isOneLine_ofList (by decide)
  have hcomma : IsOneLine ", " := isOneLine_ofList (by decide)
  have hheader : IsOneLine "Placement.Header(" := isOneLine_ofList (by decide)
  have hquery : IsOneLine "Placement.Query(" := isOneLine_ofList (by decide)
  have hcookie : IsOneLine "Placement.Cookie(" := isOneLine_ofList (by decide)
  cases place with
  | header name lead =>
      cases lead with
      | none => exact (hheader.append (hliteral name)).append hclose
      | some lead =>
          exact (((hheader.append (hliteral name)).append hcomma).append (hliteral lead)).append
            hclose
  | query name => exact (hquery.append (hliteral name)).append hclose
  | cookie name => exact (hcookie.append (hliteral name)).append hclose

/-! ### The lines of the interceptor -/

/-- The name that is given to a constant has characters of constants. -/
theorem isConstantChar_of_isGivenFor (h : IsGivenFor "_" (schemeConstant key) constant) :
    ∀ c ∈ constant.toList, IsConstantChar c := by
  obtain ⟨ext, hext, rfl⟩ := exists_eq_of_isGivenFor h
  intro c hc
  rw [String.toList_append] at hc
  rcases List.mem_append.mp hc with hc | hc
  · exact isConstantChar_of_mem_screaming hc
  · exact (hext c hc).imp_left Text.isWordChar_of_isAlphanumeric

/-- A line that has no line feed inside and declares no constant. -/
structure IsPlainLine (line : String) : Prop where
  one_line : IsOneLine line
  declares_nothing : declaredConstant? line.toList = none

/-- A line that declares no constant is plain. -/
theorem isPlainLine_ofList {cs : List Char} (h : '\n' ∉ cs ∧ declaredConstant? cs = none) :
    IsPlainLine (String.ofList cs) :=
  ⟨isOneLine_ofList h.1, by rw [String.toList_ofList, h.2]⟩

/-- **Reading constants.**  Among plain lines the constants that are read are those that were
written. -/
theorem declaredConstants_of_isPlainLine {front back : List String}
    {constants : List (String × String)} (hne : constants ≠ [])
    (hfront : ∀ line ∈ front, IsPlainLine line) (hback : ∀ line ∈ back, IsPlainLine line)
    (hnames : ∀ c ∈ constants, ∀ d ∈ c.1.toList, IsConstantChar d)
    (hvalues : ∀ c ∈ constants, IsOneLine c.2) :
    declaredConstants ("\n".intercalate
      (front ++ (constants.map fun c => constantLine c.1 c.2) ++ back)) = constants := by
  have hplain : ∀ {lines : List String}, (∀ line ∈ lines, IsPlainLine line) →
      lines.filterMap (fun line => declaredConstant? line.toList) = [] := fun h =>
    List.filterMap_eq_nil_iff.mpr fun line hline => (h line hline).declares_nothing
  have hwritten : (constants.map fun c => constantLine c.1 c.2).filterMap
      (fun line => declaredConstant? line.toList) = constants := by
    rw [List.filterMap_map]
    refine (List.filterMap_congr fun c hc => ?_).trans List.filterMap_some
    exact declaredConstant?_constantLine (blank_not_mem_of_isConstantChar (hnames c hc)) c.2
  have hlines : ∀ line ∈ front ++ (constants.map fun c => constantLine c.1 c.2) ++ back,
      IsOneLine line := by
    intro line hline
    rcases List.mem_append.mp hline with hline | hline
    · rcases List.mem_append.mp hline with hline | hline
      · exact (hfront line hline).one_line
      · obtain ⟨c, hc, rfl⟩ := List.mem_map.mp hline
        exact isOneLine_constantLine (isOneLine_of_isConstantChar (hnames c hc)) (hvalues c hc)
    · exact (hback line hline).one_line
  rw [declaredConstants_intercalate (by simp [hne]) hlines, List.filterMap_append,
    List.filterMap_append, hplain hfront, hplain hback, hwritten, List.nil_append,
    List.append_nil]

/-- The head of the interceptor without the constant at its end. -/
theorem exists_interceptorHead_eq : ∃ front, (∀ line ∈ front, IsPlainLine line) ∧
    interceptorHead = front ++ [constantLine markerConstant (stringLiteral markerHeader)] := by
  refine ⟨interceptorHead.dropLast, ?_, rfl⟩
  simp only [interceptorHead, List.dropLast, List.forall_mem_cons, List.not_mem_nil, false_implies,
    implies_true, and_true]
  and_intros <;> exact isPlainLine_ofList (by decide +kernel)

/-- The lines around the places declare no constants. -/
theorem isPlainLine_of_mem_interceptorPlaces : ∀ line ∈ interceptorPlaces, IsPlainLine line := by
  simp only [interceptorPlaces, List.forall_mem_cons, List.not_mem_nil, false_implies,
    implies_true, and_true]
  and_intros <;> exact isPlainLine_ofList (by decide +kernel)

/-- The lines of the members declare no constants. -/
theorem isPlainLine_of_mem_interceptorMembers : ∀ line ∈ interceptorMembers, IsPlainLine line := by
  simp only [interceptorMembers, String.reduceAppend, List.forall_mem_cons, List.not_mem_nil,
    false_implies, implies_true, and_true]
  and_intros <;> exact isPlainLine_ofList (by decide +kernel)

/-- A line that starts with the constant of a scheme behind its indentation is plain, as no
constant starts like a declaration. -/
theorem isPlainLine_of_isGivenFor (h : IsGivenFor "_" (schemeConstant key) constant)
    {rest : String} (hrest : IsOneLine rest) : IsPlainLine ("        " ++ constant ++ rest) := by
  have hchars := isConstantChar_of_isGivenFor h
  have hconstant := isOneLine_of_isConstantChar hchars
  refine ⟨((isOneLine_ofList (by decide)).append hconstant).append hrest, ?_⟩
  obtain ⟨ext, _, heq⟩ := exists_eq_of_isGivenFor h
  obtain ⟨d, hd, hlower⟩ : BeginsInUppercase constant :=
    heq ▸ (beginsInUppercase_screaming key).append ext
  obtain ⟨ds, hconstant⟩ := List.head?_eq_some_iff.mp hd
  have hblank : d ≠ ' ' := by
    rintro rfl
    exact blank_not_mem_of_isConstantChar hchars (hconstant ▸ List.mem_cons_self)
  have hletter : d ≠ 'c' := by
    rintro rfl
    cases hlower
  have hgap : "        ".toList = List.replicate 8 ' ' := String.toList_ofList
  apply declaredConstant?_eq_none
  rw [String.toList_append, String.toList_append, hgap, hconstant, List.append_assoc,
    List.dropWhile_append_of_pos (by simp), List.cons_append,
    List.dropWhile_cons_of_neg (by simpa using hblank), List.head?_cons]
  exact fun heq => hletter (Option.some.inj heq)

/-- A line of an entry is the entry, perhaps with a comma. -/
theorem eq_or_of_mem_entryLines {lines : List String} (h : line ∈ entryLines lines) :
    ∃ entry ∈ lines, line = "        " ++ entry ∨ line = "        " ++ entry ++ "," := by
  fun_induction entryLines lines with
  | case1 => cases h
  | case2 entry => exact ⟨entry, List.mem_cons_self, .inl (List.mem_singleton.mp h)⟩
  | case3 entry rest _ ih =>
      rcases List.mem_cons.mp h with rfl | h
      · exact ⟨entry, List.mem_cons_self, .inr rfl⟩
      · obtain ⟨other, hother, heq⟩ := ih h
        exact ⟨other, List.mem_cons_of_mem _ hother, heq⟩

/-- The places of the credentials of some schemes. -/
def placeEntries (texts : List SchemeText) : List String :=
  texts.filterMap fun t => t.place.map fun place => t.constant ++ " to " ++ place.text

/-- The lines of the places declare no constants. -/
theorem isPlainLine_of_mem_placeEntries {texts : List SchemeText}
    (h : ∀ t ∈ texts, IsGivenFor "_" (schemeConstant t.key) t.constant)
    (hline : line ∈ entryLines (placeEntries texts)) : IsPlainLine line := by
  obtain ⟨entry, hentry, hline⟩ := eq_or_of_mem_entryLines hline
  obtain ⟨t, ht, hplace⟩ := List.mem_filterMap.mp hentry
  obtain ⟨place, _, rfl⟩ := Option.map_eq_some_iff.mp hplace
  have hrest : IsOneLine (" to " ++ place.text) :=
    (isOneLine_ofList (by decide)).append (isOneLine_placeText place)
  have hcomma : IsOneLine "," := isOneLine_ofList (by decide)
  rcases hline with rfl | rfl
  · have hplain := isPlainLine_of_isGivenFor (h t ht) hrest
    simpa only [String.append_assoc] using hplain
  · have hplain := isPlainLine_of_isGivenFor (h t ht) (hrest.append hcomma)
    simpa only [String.append_assoc] using hplain

/-- The lines of the interceptor, part by part. -/
theorem interceptorLines_eq (texts : List SchemeText) : interceptorLines texts =
    interceptorHead ++ (texts.map fun t => constantLine t.constant (stringLiteral t.key)) ++
      interceptorPlaces ++ entryLines (placeEntries texts) ++ interceptorMembers := rfl

/-- **The constants that are written.**  The source of the interceptor declares the constant of
the marker, then those of the schemes in their order, each with its key, and no others. -/
theorem declaredConstants_interceptorLines {texts : List SchemeText}
    (h : ∀ t ∈ texts, IsGivenFor "_" (schemeConstant t.key) t.constant) :
    declaredConstants ("\n".intercalate (interceptorLines texts)) =
      (markerConstant, stringLiteral markerHeader) ::
        texts.map fun t => (t.constant, stringLiteral t.key) := by
  obtain ⟨front, hfront, hhead⟩ := exists_interceptorHead_eq
  have hlines : interceptorLines texts = front ++
      (((markerConstant, stringLiteral markerHeader) ::
        texts.map fun t => (t.constant, stringLiteral t.key)).map fun c => constantLine c.1 c.2) ++
      (interceptorPlaces ++ (entryLines (placeEntries texts) ++ interceptorMembers)) := by
    rw [interceptorLines_eq, hhead, List.map_cons, List.map_map]
    simp only [List.append_assoc, List.cons_append, List.nil_append, Function.comp_def]
  have hback : ∀ line ∈
      interceptorPlaces ++ (entryLines (placeEntries texts) ++ interceptorMembers),
      IsPlainLine line := by
    rw [List.forall_mem_append, List.forall_mem_append]
    exact ⟨isPlainLine_of_mem_interceptorPlaces, fun line => isPlainLine_of_mem_placeEntries h,
      isPlainLine_of_mem_interceptorMembers⟩
  have hletters : markerConstant.toList.all isIdentifierPart = true := by decide +kernel
  have hmarker : ∀ c ∈ markerConstant.toList, IsConstantChar c := fun c hc =>
    isConstantChar_of_isIdentifierPart (List.all_eq_true.mp hletters c hc)
  rw [hlines]
  refine declaredConstants_of_isPlainLine (List.cons_ne_nil _ _) hfront hback ?_ ?_
  · rw [List.forall_mem_cons, List.forall_mem_map]
    exact ⟨hmarker, fun t ht => isConstantChar_of_isGivenFor (h t ht)⟩
  · rw [List.forall_mem_cons, List.forall_mem_map]
    exact ⟨isOneLine_stringLiteral _, fun t _ => isOneLine_stringLiteral t.key⟩

/-! ### The interceptor of a document -/

/-- No scheme has the name that is reserved. -/
theorem schemeConstant_ne_markerConstant (key : String) : schemeConstant key ≠ markerConstant := by
  rw [schemeConstant]
  by_cases hmarker : (Name.ofText key).screaming = markerConstant
  · rw [if_pos hmarker, hmarker]
    decide
  · rwa [if_neg hmarker]

/-- No scheme takes the constant of the marker, with a number behind its own or without. -/
theorem ne_markerConstant_of_isGivenFor (h : IsGivenFor "_" (schemeConstant key) constant) :
    constant ≠ markerConstant := by
  rcases h with rfl | ⟨n, rfl⟩
  · exact schemeConstant_ne_markerConstant key
  · intro heq
    obtain ⟨d, hdigit, hlast⟩ := exists_getLast?_numbered (schemeConstant key) n
    have hmarker : markerConstant.toList.getLast? = some 'E' := by decide
    rw [heq, hmarker] at hlast
    rw [← Option.some.inj hlast] at hdigit
    cases hdigit

/-- A constant that is declared for a scheme: it has a name that is given for the scheme, and
the key of the scheme as its value. -/
structure IsConstantOf (scheme : String × SecurityScheme) (constant : String × String) : Prop where
  named : IsGivenFor "_" (schemeConstant scheme.1) constant.1
  valued : constant.2 = stringLiteral scheme.1

/-- **The interceptor.**  It declares the constant of the marker and then one for each scheme of
the document, in the order of the schemes; no two of all these have the same name. -/
theorem interceptorConstants_differ (options : Options) (d : Document) :
    ∃ source constants, (interceptorFile options d).declarations = [source] ∧
      declaredConstants source = (markerConstant, stringLiteral markerHeader) :: constants ∧
      List.Forall₂ IsConstantOf d.securitySchemes constants ∧
      ((declaredConstants source).map (·.1)).Nodup := by
  have hwritten := forall₂_schemeTexts d.securitySchemes
  have hgiven : ∀ t ∈ schemeTexts d.securitySchemes,
      IsGivenFor "_" (schemeConstant t.key) t.constant := by
    intro t ht
    obtain ⟨scheme, _, hkey, hconstant⟩ := exists_of_mem_forall₂ hwritten ht
    rwa [hkey]
  have hdeclared := declaredConstants_interceptorLines hgiven
  have hforall : List.Forall₂ IsConstantOf d.securitySchemes
      ((schemeTexts d.securitySchemes).map fun t => (t.constant, stringLiteral t.key)) := by
    rw [List.forall₂_map_right_iff]
    exact hwritten.imp fun scheme t h => ⟨h.2, congrArg stringLiteral h.1⟩
  refine ⟨_, _, rfl, hdeclared, hforall, ?_⟩
  have hnames : (schemeTexts d.securitySchemes).map (·.constant) =
      schemeConstants (d.securitySchemes.map (·.1)) := constants_schemeTexts _
  have hmarker : markerConstant ∉ (schemeTexts d.securitySchemes).map (·.constant) := by
    intro hmem
    obtain ⟨t, ht, heq⟩ := List.mem_map.mp hmem
    exact ne_markerConstant_of_isGivenFor (hgiven t ht) heq
  rw [hdeclared, List.map_cons, List.map_map]
  exact List.nodup_cons.mpr ⟨hmarker, hnames ▸ nodup_uniqueNames _ _⟩

/-- Keys that would take the constant of the marker, or what it is renamed to. -/
example : schemeConstants ["auth-header-name", "authHeaderNameScheme", "AUTH_HEADER_NAME"] =
    ["AUTH_HEADER_NAME_SCHEME", "AUTH_HEADER_NAME_SCHEME_2", "AUTH_HEADER_NAME_SCHEME_3"] := by
  decide +kernel

end ClientGen.Kotlin
