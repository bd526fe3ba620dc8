import ClientGen.Kotlin.HolderFile
import ClientGen.Proofs.Kotlin.BlockComments

/-!
# The comment of the holder

The comment in front of the holder carries the title of the document as it is, without the
blanks around it.  A blank stands before the title and a full stop behind it, so no delimiter
comes about at its ends, and there is no slash in the rest of the comment but in its own
delimiters.  So where the comment ends depends on the delimiters of the title alone: it ends
where it should exactly if each `*/` in the title closes a `/*` of the title and each of these
is closed.

* `afterComment?_commented_iff`: a title between the two pieces of the comment;
* `holderComment_closes_iff`: the declaration of the holder.
-/

namespace ClientGen.Kotlin

/-- The comment up to the title. -/
def titleFront : String := "/**" ++ "\n" ++ " * Creates and caches the Retrofit services of "

/-- The comment behind the title. -/
def titleBack : String :=
  "." ++ "\n" ++ " *" ++ "\n" ++ " * Changing [baseUrl] or [client] drops every cached service."
    ++ "\n" ++ " */"

/-- A title in the comment of the holder, and some code on the line behind it. -/
def commented (title code : String) : String := titleFront ++ title ++ titleBack ++ "\n" ++ code

/-- The holder without its comment. -/
def holderCode (url : String) (style : CallStyle) : String :=
  "\n".intercalate
    (["object ApiHolder \x7b", "    const val DEFAULT_BASE_URL = " ++ stringLiteral url]
      ++ holderFields ++ (if style = .observable then [observableAdapter] else [])
      ++ holderMembers)

/-- The declaration of the holder is its comment and its code. -/
theorem intercalate_holderLines (title url : String) (style : CallStyle) :
    "\n".intercalate (holderLines title url style) = commented title (holderCode url style) := by
  have hcode : ∃ first rest,
      ["object ApiHolder \x7b", "    const val DEFAULT_BASE_URL = " ++ stringLiteral url]
        ++ holderFields ++ (if style = .observable then [observableAdapter] else [])
        ++ holderMembers = first :: rest := ⟨_, _, rfl⟩
  obtain ⟨first, rest, hcode⟩ := hcode
  have hlines : holderLines title url style = "/**"
      :: (" * Creates and caches the Retrofit services of " ++ title ++ ".") :: " *"
      :: " * Changing [baseUrl] or [client] drops every cached service." :: " */"
      :: first :: rest := by
    rw [← hcode]
    rfl
  rw [hlines, commented, holderCode, hcode, titleFront, titleBack]
  simp only [String.intercalate_cons_cons, String.append_assoc]

/-- The front of the comment opens it and nothing else. -/
theorem afterComment?_titleFront (source : List Char) :
    afterComment? (titleFront.toList ++ source) = afterInner? 0 source := by
  have hfront : titleFront.toList = '/' :: '*' ::
      ("*\n * Creates and caches the Retrofit services of".toList ++ [' ']) := by
    simp [titleFront]
  have hslash : '/' ∉ "*\n * Creates and caches the Retrofit services of".toList := by simp
  rw [hfront, List.cons_append, List.cons_append, afterComment?, List.append_assoc]
  exact afterInner?_append_blank hslash

/-- The back of the comment closes one comment and opens none. -/
theorem afterInner?_titleBack (depth : Nat) (source : List Char) :
    afterInner? depth (titleBack.toList ++ source) = afterInner? depth ('*' :: '/' :: source) := by
  have hback : titleBack.toList =
      ".\n *\n * Changing [baseUrl] or [client] drops every cached service.\n".toList ++
        [' ', '*', '/'] := by
    simp [titleBack]
  rw [hback, List.append_assoc]
  exact afterInner?_append_blank (by simp)

/-- A full stop is the first character behind the title. -/
theorem exists_titleBack_eq : ∃ rest, titleBack.toList = '.' :: rest := by
  simp [titleBack]

/-- **The title** between the two pieces of the comment, in front of any code. -/
theorem afterComment?_commented_iff (title code : String) :
    afterComment? (commented title code).toList = some ("\n" ++ code).toList ↔
      Balanced (delimiters title.toList) := by
  have hshape : (commented title code).toList =
      titleFront.toList ++ (title.toList ++ (titleBack.toList ++ ("\n" ++ code).toList)) := by
    simp only [commented, String.toList_append, List.append_assoc]
  rw [hshape, afterComment?_titleFront, ← depthAfter?_eq_zero_iff]
  generalize ("\n" ++ code).toList = behind
  obtain ⟨rest, hback⟩ := exists_titleBack_eq
  have hstop : ∀ d ∈ (titleBack.toList ++ behind).head?, d ≠ '/' ∧ d ≠ '*' := by
    intro d hd
    rw [hback] at hd
    rw [← Option.some.inj hd]
    decide
  have htitle := afterInner?_append hstop title.toList 0
  cases hdepth : depthAfter? 0 (delimiters title.toList) with
  | none =>
      -- The title closes the comment, and what stands behind that is longer than the code.
      rw [hdepth] at htitle
      obtain ⟨tail, htail⟩ := htitle
      refine iff_of_false (fun h => ?_) (by simp)
      rw [htail, hback] at h
      have hlength := congrArg List.length (Option.some.inj h)
      simp only [List.length_append, List.length_cons] at hlength
      omega
  | some n =>
      rw [hdepth] at htitle
      rw [htitle, afterInner?_titleBack]
      cases n with
      | zero => exact iff_of_true rfl rfl
      | succ n =>
          -- A comment of the title is still open, and only that one is closed.
          refine iff_of_false (fun h => ?_) (by simp)
          rw [afterInner?] at h
          have hshorter := length_lt_of_afterInner? h
          omega

/-- The file of the holder has one declaration, with the title in a comment in front. -/
theorem declarations_holderFile (options : Options) (d : Document) :
    (holderFile options d).declarations =
      [commented (Text.trim d.info.title) (holderCode (baseUrl d) options.callStyle)] :=
  congrArg (· :: []) (intercalate_holderLines _ _ _)

/-- **The holder.**  Its comment is closed by its own last delimiter, right in front of the
line where the code starts, exactly if the delimiters in the trimmed title are balanced. -/
theorem holderComment_closes_iff (options : Options) (d : Document) :
    ∃ code, code = holderCode (baseUrl d) options.callStyle ∧
      (holderFile options d).declarations = [commented (Text.trim d.info.title) code] ∧
      (afterComment? (commented (Text.trim d.info.title) code).toList = some ("\n" ++ code).toList ↔
        Balanced (delimiters (Text.trim d.info.title).toList)) :=
  ⟨_, rfl, declarations_holderFile options d, afterComment?_commented_iff _ _⟩

/-- A title that closes the comment it stands in and opens another one. -/
def closingTitle : String := "Pets */ fun pets() = 1 /*"

/-- A document with this title and nothing else. -/
def closingDocument : Document where
  version := "3.0.3"
  info := { title := closingTitle, version := "1" }

/-- The comment of its holder ends in the title, and what follows there is code. -/
theorem holderComment_of_closingTitle :
    ∃ code, (holderFile {} closingDocument).declarations = [commented closingTitle code] ∧
      afterComment? (commented closingTitle code).toList ≠ some ("\n" ++ code).toList ∧
      ∃ rest, afterComment? (commented closingTitle code).toList =
        some (" fun pets() = 1 /*".toList ++ rest) := by
  have htrim : Text.trim closingDocument.info.title = closingTitle := by decide +kernel
  have hdelimiters : delimiters closingTitle.toList = [.closing, .opening] := by decide +kernel
  have hdeclarations := declarations_holderFile {} closingDocument
  rw [htrim] at hdeclarations
  refine ⟨_, hdeclarations, ?_, ?_⟩
  · rw [ne_eq, afterComment?_commented_iff, hdelimiters]
    intro h
    exact absurd (h.closes_own [.closing] (by simp)) (by decide)
  · rw [commented, String.toList_append, String.toList_append, String.toList_append,
      String.toList_append, List.append_assoc, List.append_assoc, List.append_assoc,
      afterComment?_titleFront]
    have htitle : closingTitle.toList =
        'P' :: 'e' :: 't' :: 's' :: ' ' :: '*' :: '/' :: " fun pets() = 1 /*".toList := by
      decide +kernel
    rw [htitle]
    exact ⟨_, rfl⟩

end ClientGen.Kotlin
