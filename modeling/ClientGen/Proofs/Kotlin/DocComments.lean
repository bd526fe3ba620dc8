import ClientGen.Kotlin.ApiFile
import ClientGen.Proofs.Document.StatusCode
import ClientGen.Proofs.Kotlin.BlockComments
import ClientGen.Proofs.Kotlin.Identifiers
import Mathlib.Data.List.TakeWhile

/-!
# Documentation comments are closed where they end

A documentation comment is put together by calls that add a paragraph or a block tag.  Each
call keeps every line free of delimiters: texts are made so, and the names in front of them
hold no slash.  `render` puts the delimiters of the comment around the lines, with blanks,
stars and line feeds at the seams, so nothing joins with them and no other delimiter is there.

* `Doc.lines_add`: what one call does;
* `Doc.isFree_lines_foldl`, `Doc.lines_foldl_eq_nil_iff`: what a run of calls keeps;
* `Doc.isOneComment_ofCalls`: the comment that comes of it;
* `isOneComment_operationDoc`: the comment of an operation.
-/

namespace ClientGen.Kotlin

/-- A text that is one block comment and nothing else. -/
structure IsOneComment (cs : List Char) : Prop where
  starts : ['/', '*', '*'] <+: cs
  ends : ['*', '/'] <:+ cs
  /-- No comment is opened but the one at the start. -/
  opens_once : ∀ front back, cs = front ++ '/' :: '*' :: back → front = []
  /-- None is closed but at the end. -/
  closes_once : ∀ front back, cs = front ++ '*' :: '/' :: back → back = []
  /-- What stands behind it is not in the comment, whatever it is. -/
  closed : ∀ rest, afterComment? (cs ++ rest) = some rest

/-- In a free text with one character behind it, a delimiter can only be at the end. -/
theorem IsFree.apart_of_append {inner front back : List Char} {a b c d : Char}
    (hfree : IsFree inner) (h : inner ++ [d] = front ++ a :: b :: (back ++ [c])) : Apart a b := by
  have hshape : front ++ a :: b :: (back ++ [c]) = (front ++ a :: b :: back) ++ [c] := by simp
  rw [hshape] at h
  have hinner := List.append_inj_left' h rfl
  exact IsFree.apart (hinner ▸ hfree)

/-- Free text between two slashes is one comment, if it starts with two stars and ends with
one. -/
theorem isOneComment_of_isFree {middle : List Char} (hfree : IsFree ('*' :: (middle ++ ['*'])))
    (hstar : (middle ++ ['*']).head? = some '*') :
    IsOneComment ('/' :: ('*' :: (middle ++ ['*']) ++ ['/'])) := by
  refine ⟨?_, ?_, ?_, ?_, ?_⟩
  · obtain ⟨tail, htail⟩ := List.head?_eq_some_iff.mp hstar
    exact ⟨tail ++ ['/'], by rw [htail]; rfl⟩
  · exact ⟨'/' :: '*' :: middle, by simp⟩
  · intro front back h
    cases front with
    | nil => rfl
    | cons x front =>
        have hinner : '*' :: (middle ++ ['*']) ++ ['/'] = front ++ '/' :: '*' :: back :=
          (List.cons.inj h).2
        rcases List.eq_nil_or_concat' back with rfl | ⟨back, last, rfl⟩
        · -- The text ends with a slash and not with a star.
          have hlast : ['/'] = ['*'] := by
            rw [List.append_cons front] at hinner
            exact List.append_inj_right' hinner rfl
          exact absurd hlast (by decide)
        · exact absurd ⟨rfl, rfl⟩ (hfree.apart_of_append hinner).1
  · intro front back h
    rcases List.eq_nil_or_concat' back with rfl | ⟨back, last, rfl⟩
    · rfl
    · cases front with
      | nil => exact absurd (List.cons.inj h).1 (by decide)
      | cons x front =>
          have hinner : '*' :: (middle ++ ['*']) ++ ['/'] =
              front ++ '*' :: '/' :: (back ++ [last]) := (List.cons.inj h).2
          exact absurd ⟨rfl, rfl⟩ (hfree.apart_of_append hinner).2
  · intro rest
    obtain ⟨hmiddle, _, hseam⟩ := isFree_append_iff.mp (isFree_cons_iff.mp hfree).2
    have hshape : '/' :: ('*' :: (middle ++ ['*']) ++ ['/']) ++ rest =
        '/' :: '*' :: (middle ++ '*' :: '/' :: rest) := by simp
    have hpassed : afterInner? 0 (middle ++ '*' :: '/' :: rest) = some rest :=
      afterInner?_append_of_isFree hmiddle hseam
    rw [hshape, afterComment?, hpassed]

/-! ### Lines -/

/-- Lines one after another, each but the first on a new line. -/
theorem toList_joinLines (line : String) (lines : List String) :
    ("\n".intercalate (line :: lines)).toList =
      line.toList ++ lines.flatMap fun l => '\n' :: l.toList := by
  induction lines generalizing line with
  | nil => simp
  | cons next lines ih =>
      rw [String.intercalate_cons_cons, String.toList_append, String.toList_append, ih next]
      simp

/-- Free lines make a free text. -/
theorem isFree_joinLines {cs : List Char} (hcs : IsFree cs) {lines : List String}
    (hlines : ∀ line ∈ lines, IsFree line.toList) :
    IsFree (cs ++ lines.flatMap fun l => '\n' :: l.toList) := by
  induction lines generalizing cs with
  | nil => simpa using hcs
  | cons line lines ih =>
      obtain ⟨hline, hrest⟩ := List.forall_mem_cons.mp hlines
      rw [List.flatMap_cons, List.cons_append]
      exact isFree_append_cons (by decide) hcs (ih hline hrest)

/-! ### Rendering -/

namespace Doc

variable {d : Doc}

/-- One line between the delimiters. -/
theorem isOneComment_single {line : String} (h : IsFree line.toList) :
    IsOneComment ("/** " ++ line ++ " */").toList := by
  have hshape : ("/** " ++ line ++ " */").toList =
      '/' :: ('*' :: ('*' :: ' ' :: (line.toList ++ [' ']) ++ ['*']) ++ ['/']) := by simp
  rw [hshape]
  refine isOneComment_of_isFree ?_ rfl
  have hstars : IsFree ['*', '*'] := isFree_of_not_mem (by decide)
  have hstar : IsFree ['*'] := isFree_of_not_mem (by decide)
  have hline : IsFree (line.toList ++ ' ' :: ['*']) := isFree_append_cons (by decide) h hstar
  have hall := isFree_append_cons (c := ' ') (by decide) hstars hline
  simpa using hall

/-- Several lines between them, each behind a star. -/
theorem isOneComment_several {lines : List String} (h : ∀ line ∈ lines, IsFree line.toList) :
    IsOneComment ("\n".intercalate ("/**" ::
      (lines.map fun line => if line = "" then " *" else " * " ++ line) ++ [" */"])).toList := by
  have hstarred : ∀ line ∈ lines.map fun line => if line = "" then " *" else " * " ++ line,
      IsFree line.toList := by
    intro starred hmem
    obtain ⟨line, hline, rfl⟩ := List.mem_map.mp hmem
    by_cases hempty : line = ""
    · rw [if_pos hempty]
      exact isFree_of_not_mem (by decide)
    · rw [if_neg hempty, String.toList_append]
      have hmark : IsFree [' ', '*'] := isFree_of_not_mem (by decide)
      exact isFree_append_cons (c := ' ') (by decide) hmark (h line hline)
  generalize lines.map (fun line => if line = "" then " *" else " * " ++ line) = starred at *
  have hshape : ("\n".intercalate ("/**" :: starred ++ [" */"])).toList =
      '/' :: ('*' :: ('*' :: (starred.flatMap fun l => '\n' :: l.toList) ++ ['\n', ' '] ++ ['*'])
        ++ ['/']) := by
    rw [List.cons_append, toList_joinLines]
    simp
  rw [hshape]
  refine isOneComment_of_isFree ?_ rfl
  have hstars : IsFree ['*', '*'] := isFree_of_not_mem (by decide)
  have hclosing : IsFree [' ', '*'] := isFree_of_not_mem (by decide)
  have hall := isFree_append_cons (c := '\n') (by decide) (isFree_joinLines hstars hstarred)
    hclosing
  simpa using hall

/-- **Rendering.**  Lines without delimiters become one comment. -/
theorem isOneComment_render (hne : d.lines ≠ []) (h : ∀ line ∈ d.lines, IsFree line.toList) :
    IsOneComment ("\n".intercalate d.render).toList := by
  obtain ⟨lines⟩ := d
  match lines, hne, h with
  | [line], _, h =>
      rw [render, String.intercalate_singleton]
      exact isOneComment_single (h line List.mem_cons_self)
  | first :: second :: rest, _, h => exact isOneComment_several h

/-- A comment without lines is not written. -/
theorem render_eq_nil (h : d.lines = []) : d.render = [] := by
  rw [render, h]

/-! ### Calls -/

/-- A call that adds to a documentation comment. -/
inductive Call where
  | paragraph (text : Option String)
  | tag (tagName : String) (subject text : Option String)

namespace Call

/-- The text that is to be added. -/
def text : Call → Option String
  | paragraph text => text
  | tag _ _ text => text

/-- There is no text, or nothing but blanks in it. -/
def IsBlank (call : Call) : Prop := ∀ t ∈ call.text, ∀ c ∈ t.toList, Text.isBlank c = true

/-- No slash is in the name of a tag or in its subject. -/
def HasPlainNames : Call → Prop
  | paragraph _ => True
  | tag tagName subject _ => '/' ∉ tagName.toList ∧ ∀ s ∈ subject, '/' ∉ s.toList

end Call

/-- The comment behind a call. -/
def add (d : Doc) : Call → Doc
  | .paragraph text => d.paragraph text
  | .tag tagName subject text => d.tag tagName subject text

/-- The comment that some calls make, one after another. -/
def ofCalls (calls : List Call) : Doc := calls.foldl add {}

/-- Nothing is left of a text exactly if it has nothing but blanks. -/
theorem trimChars_eq_nil_iff {cs : List Char} :
    Text.trimChars cs = [] ↔ ∀ c ∈ cs, Text.isBlank c = true := by
  constructor
  · intro h
    obtain ⟨front, back, hcs, hfront, hback⟩ := surrounds_trimChars cs
    rw [h, List.append_nil] at hcs
    rw [hcs, List.forall_mem_append]
    exact ⟨hfront, hback⟩
  · intro h
    have hfront : Text.trimFront cs = [] := List.dropWhile_eq_nil_iff.mpr h
    rw [Text.trimChars, hfront]
    rfl

/-- Nothing is left of a text exactly if there is nothing but blanks in it. -/
theorem content?_eq_none_iff {text : Option String} :
    content? text = none ↔ ∀ t ∈ text, ∀ c ∈ t.toList, Text.isBlank c = true := by
  cases text with
  | none => simp [content?]
  | some t =>
      have htrim : Text.trim t = "" ↔ ∀ c ∈ t.toList, Text.isBlank c = true := by
        rw [← trimChars_eq_nil_iff, Text.trim, ← String.toList_inj, String.toList_ofList]
        rfl
      simp [content?, ← htrim]

theorem lineChars_ne_nil {cs : List Char} (h : cs ≠ []) : Text.lineChars cs ≠ [] := by
  fun_cases Text.lineChars cs with
  | case1 => exact absurd rfl h
  | case2 => exact List.cons_ne_nil _ _
  | case3 => exact List.cons_ne_nil _ _
  | case4 => exact List.cons_ne_nil _ _
  | case5 => exact List.cons_ne_nil _ _

/-- The text of a comment has no delimiter. -/
theorem isFree_commentText (s : String) : IsFree (commentText s).toList := by
  rw [commentText, String.toList_ofList]
  exact isFree_commentChars s.toList

theorem isFree_gap : ∀ line ∈ d.gap, IsFree line.toList := by
  intro line hline
  have hempty : line = "" := by
    unfold gap at hline
    split at hline
    · cases hline
    · exact List.mem_singleton.mp hline
  rw [hempty]
  exact isFree_of_not_mem (by decide)

/-- The line of a block tag. -/
def tagLine (tagName : String) (subject : Option String) (body : String) : String :=
  match subject with
  | some s => "@" ++ tagName ++ " " ++ s ++ " " ++ body
  | none => "@" ++ tagName ++ " " ++ body

/-- The line of a tag has no delimiter unless its name, its subject or its text has one. -/
theorem isFree_tagLine {tagName body : String} {subject : Option String}
    (hname : '/' ∉ tagName.toList) (hsubject : ∀ s ∈ subject, '/' ∉ s.toList)
    (hbody : IsFree body.toList) : IsFree (tagLine tagName subject body).toList := by
  have htag : IsFree ('@' :: tagName.toList) := isFree_of_not_mem (by simpa using hname)
  cases subject with
  | none =>
      have hall := isFree_append_cons (c := ' ') (by decide) htag hbody
      simpa [tagLine] using hall
  | some s =>
      have hs : IsFree s.toList := isFree_of_not_mem (hsubject s rfl)
      have hbehind := isFree_append_cons (c := ' ') (by decide) hs hbody
      have hall := isFree_append_cons (c := ' ') (by decide) htag hbehind
      simpa [tagLine] using hall

/-- The lines that a call adds for a text. -/
def addedLines (d : Doc) (t : String) : Call → List String
  | .paragraph _ => d.gap ++ (Text.lines t).map fun l => commentText (Text.trimEnd l)
  | .tag tagName subject _ =>
    (if d.hasTag then [] else d.gap) ++
      [tagLine tagName subject (commentText (" ".intercalate (Text.lines t)))]

/-- A call with a text adds a line. -/
theorem addedLines_ne_nil {t : String} (h : t ≠ "") (call : Call) : d.addedLines t call ≠ [] := by
  have hchars : t.toList ≠ [] := fun hnil => h (String.toList_inj.mp hnil)
  cases call with
  | paragraph text => simp [addedLines, Text.lines, lineChars_ne_nil hchars]
  | tag tagName subject text => simp [addedLines]

/-- No line that a call adds has a delimiter, if its names are plain. -/
theorem isFree_addedLines (t : String) {call : Call} (h : call.HasPlainNames) :
    ∀ line ∈ d.addedLines t call, IsFree line.toList := by
  intro line hline
  cases call with
  | paragraph text =>
      rcases List.mem_append.mp hline with hgap | htext
      · exact isFree_gap line hgap
      · obtain ⟨l, _, rfl⟩ := List.mem_map.mp htext
        exact isFree_commentText _
  | tag tagName subject text =>
      rcases List.mem_append.mp hline with hgap | htext
      · split at hgap
        · cases hgap
        · exact isFree_gap line hgap
      · rw [List.mem_singleton.mp htext]
        exact isFree_tagLine h.1 h.2 (isFree_commentText _)

/-- A call without a text adds nothing. -/
theorem add_of_none {call : Call} (h : content? call.text = none) : d.add call = d := by
  cases call with
  | paragraph text =>
      rw [Call.text] at h
      rw [add, paragraph, h]
  | tag tagName subject text =>
      rw [Call.text] at h
      rw [add, tag, h]

/-- A call with a text adds its lines behind the others. -/
theorem lines_add_of_some {call : Call} {t : String} (h : content? call.text = some t) :
    (d.add call).lines = d.lines ++ d.addedLines t call := by
  cases call with
  | paragraph text =>
      rw [Call.text] at h
      rw [add, paragraph, h]
      exact List.append_assoc _ _ _
  | tag tagName subject text =>
      rw [Call.text] at h
      rw [add, tag, h]
      cases subject <;> exact List.append_assoc _ _ _

/-- **One call.**  A text that is blank adds nothing; any other adds lines, and they are free
of delimiters if the names in them have no slash. -/
theorem lines_add (d : Doc) (call : Call) : (call.IsBlank ∧ d.add call = d) ∨
    (¬call.IsBlank ∧ ∃ more, more ≠ [] ∧ (d.add call).lines = d.lines ++ more ∧
      (call.HasPlainNames → ∀ line ∈ more, IsFree line.toList)) := by
  cases hcontent : content? call.text with
  | none => exact .inl ⟨content?_eq_none_iff.mp hcontent, add_of_none hcontent⟩
  | some t =>
      have hblank : ¬call.IsBlank := fun h => by
        rw [content?_eq_none_iff.mpr h] at hcontent
        cases hcontent
      have hne : t ≠ "" := by simpa using (Option.filter_eq_some_iff.mp hcontent).2
      exact .inr ⟨hblank, d.addedLines t call, addedLines_ne_nil hne call,
        lines_add_of_some hcontent, isFree_addedLines t⟩

/-- **A run of calls** adds no delimiter to the lines that are there. -/
theorem isFree_lines_foldl {calls : List Call} (hcalls : ∀ call ∈ calls, call.HasPlainNames)
    {d : Doc} (hd : ∀ line ∈ d.lines, IsFree line.toList) :
    ∀ line ∈ (calls.foldl add d).lines, IsFree line.toList := by
  induction calls generalizing d with
  | nil => exact hd
  | cons call calls ih =>
      obtain ⟨hcall, hrest⟩ := List.forall_mem_cons.mp hcalls
      refine ih hrest ?_
      rcases lines_add d call with ⟨_, hsame⟩ | ⟨_, more, _, hlines, hmore⟩
      · rw [hsame]
        exact hd
      · rw [hlines, List.forall_mem_append]
        exact ⟨hd, hmore hcall⟩

/-- It adds no line at all exactly if all its texts are blank. -/
theorem lines_foldl_eq_nil_iff {calls : List Call} {d : Doc} :
    (calls.foldl add d).lines = [] ↔ d.lines = [] ∧ ∀ call ∈ calls, call.IsBlank := by
  induction calls generalizing d with
  | nil => simp
  | cons call calls ih =>
      rw [List.foldl_cons, ih, List.forall_mem_cons]
      rcases lines_add d call with ⟨hblank, hsame⟩ | ⟨hblank, more, hne, hlines, _⟩
      · rw [hsame]
        simp [hblank]
      · rw [hlines]
        simp [hblank, hne]

/-- **Documentation comments.**  Calls whose texts are all blank render nothing.  Any others
render one comment: between the delimiters around it there is no delimiter, so that it ends
where its last line ends. -/
theorem isOneComment_ofCalls {calls : List Call} (h : ∀ call ∈ calls, call.HasPlainNames) :
    ((∀ call ∈ calls, call.IsBlank) → (ofCalls calls).render = []) ∧
      ((∃ call ∈ calls, ¬call.IsBlank) →
        IsOneComment ("\n".intercalate (ofCalls calls).render).toList) := by
  have hnil : (ofCalls calls).lines = [] ↔ ∀ call ∈ calls, call.IsBlank := by
    rw [ofCalls, lines_foldl_eq_nil_iff]
    exact and_iff_right rfl
  constructor
  · intro hblank
    exact render_eq_nil (hnil.mpr hblank)
  · rintro ⟨call, hcall, hblank⟩
    have hne : (ofCalls calls).lines ≠ [] := fun hlines => hblank (hnil.mp hlines call hcall)
    exact isOneComment_render hne (isFree_lines_foldl h (by simp))

/-- Calls whose texts have delimiters that overlap, or that a replacement could complete. -/
def seamCalls : List Call :=
  [.paragraph (some "/*/ a\n*"), .tag "param" (some "x") (some "//**/"),
    .tag "return" none (some " ")]

/-- Each loses its slashes and stays on its line. -/
theorem isOneComment_seamCalls :
    (∀ call ∈ seamCalls, call.HasPlainNames) ∧ (∃ call ∈ seamCalls, ¬call.IsBlank) ∧
      (ofCalls seamCalls).render =
        ["/**", " * &#47;*&#47; a", " * *", " *", " * @param x /&#47;**&#47;", " */"] ∧
      IsOneComment ("\n".intercalate (ofCalls seamCalls).render).toList := by
  have hnames : ∀ call ∈ seamCalls, call.HasPlainNames := by
    simp [seamCalls, Call.HasPlainNames]
  have htext : ∃ call ∈ seamCalls, ¬call.IsBlank := by
    refine ⟨_, List.mem_cons_self, fun h => ?_⟩
    exact absurd (h _ rfl '/' (by decide)) (by decide)
  exact ⟨hnames, htext, by decide +kernel, (isOneComment_ofCalls hnames).2 htext⟩

end Doc

/-! ### Operations -/

/-- An escaped name has no slash. -/
theorem slash_not_mem_escapeIdentifier (name : String) : '/' ∉ (escapeIdentifier name).toList := by
  have hidentifier : IsIdentifier ['/'] (escapeIdentifier name) := by
    refine isIdentifier_escapeIdentifier (by decide) fun c _ hc => ?_
    rw [List.mem_singleton.mp hc]
    decide
  intro hslash
  cases hidentifier with
  | plain hplain _ => exact absurd (isIdentifierPart_of_mem hplain hslash) (by decide)
  | quoted _ hcs hs =>
      rw [hs, toList_backticked] at hslash
      have hinside := hslash
      simp only [List.mem_cons, List.mem_append, List.not_mem_nil, or_false] at hinside
      rcases hinside with hfirst | hmem | hlast
      · exact absurd hfirst (by decide)
      · exact hcs _ hmem (List.mem_singleton_self _)
      · exact absurd hlast (by decide)

/-- The calls for the comment of an operation. -/
def operationCalls (op : AnalyzedOperation) : List Doc.Call :=
  .paragraph (op.description.or op.summary) ::
    (op.callerParameters.map fun p =>
      .tag "param" (some (escapeIdentifier p.name)) p.description) ++
    [.tag "return" none op.responseDescription]

theorem operationDoc_eq_ofCalls (op : AnalyzedOperation) :
    operationDoc op = Doc.ofCalls (operationCalls op) := by
  rw [Doc.ofCalls, operationCalls, List.cons_append, List.foldl_cons, List.foldl_append,
    List.foldl_map]
  rfl

/-- The names in these calls are plain. -/
theorem hasPlainNames_operationCalls (op : AnalyzedOperation) :
    ∀ call ∈ operationCalls op, call.HasPlainNames := by
  intro call hcall
  rcases List.mem_cons.mp hcall with rfl | hrest
  · trivial
  rcases List.mem_append.mp hrest with hparam | hreturn
  · obtain ⟨p, _, rfl⟩ := List.mem_map.mp hparam
    refine ⟨by decide, fun s hs => ?_⟩
    rw [← Option.some.inj hs]
    exact slash_not_mem_escapeIdentifier p.name
  · rw [List.mem_singleton.mp hreturn]
    exact ⟨by decide, by simp⟩

/-- **Operations.**  What is said about an operation and its parameters is one comment, if
anything is said at all. -/
theorem isOneComment_operationDoc (op : AnalyzedOperation) (h : (operationDoc op).render ≠ []) :
    IsOneComment ("\n".intercalate (operationDoc op).render).toList := by
  have hne : (operationDoc op).lines ≠ [] := fun hnil => h (Doc.render_eq_nil hnil)
  refine Doc.isOneComment_render hne ?_
  rw [operationDoc_eq_ofCalls]
  exact Doc.isFree_lines_foldl (hasPlainNames_operationCalls op) (by simp)

end ClientGen.Kotlin
