import ClientGen.Document.MediaKind
import ClientGen.Proofs.Text.Keywords

/-!
# Which media types are of which kind

A media type declares a kind in front of its parameters, which start at the first semicolon.
What counts there is the text inside the blanks, with its letters in either case.  JSON is
declared by its own name, or by any name with the suffix for types whose syntax is that of
JSON; forms are declared by their names only.  Everything else is of none of these kinds.

* `NamesKind`, `Declares`, `IsOfKind`: what media types stand for;
* `ofMime_eq_iff`: each media type is read as of its kind.
-/

namespace ClientGen.MediaKind

variable {mime : String} {kind : MediaKind}

/-! ### What media types stand for -/

/-- The name of JSON. -/
def jsonName : Keyword where
  text := "application/json"

/-- The end of the names of types with the syntax of JSON. -/
def jsonSuffix : Keyword where
  text := "+json"

/-- The name of forms in several parts. -/
def multipartName : Keyword where
  text := "multipart/form-data"

/-- The name of forms with encoded fields. -/
def urlEncodedName : Keyword where
  text := "application/x-www-form-urlencoded"

/-- A text is what stands in front of the parameters of a media type, if there are any. -/
def IsFront (front mime : List Char) : Prop :=
  ';' ∉ front ∧ (mime = front ∨ ∃ parameters, mime = front ++ ';' :: parameters)

/-- A media type without parameters and blanks names a kind. -/
inductive NamesKind : List Char → MediaKind → Prop
  | json {text : List Char} (h : jsonName.IsSpelledBy text) : NamesKind text .json
  | suffixed {front text : List Char} (h : jsonSuffix.IsSpelledBy text) :
      NamesKind (front ++ text) .json
  | multipart {text : List Char} (h : multipartName.IsSpelledBy text) : NamesKind text .multipart
  | urlEncoded {text : List Char} (h : urlEncodedName.IsSpelledBy text) :
      NamesKind text .urlEncoded

/-- A media type declares a kind. -/
def Declares (mime : String) (kind : MediaKind) : Prop :=
  ∃ front, IsFront front mime.toList ∧ ∃ text, Surrounds text front ∧ NamesKind text kind

/-- A media type is of the kind it declares, or else of none that is told apart. -/
inductive IsOfKind (mime : String) : MediaKind → Prop
  | declared {kind : MediaKind} (h : Declares mime kind) : IsOfKind mime kind
  | other (h : ∀ kind, ¬Declares mime kind) : IsOfKind mime .other

/-! ### How they are read -/

/-- There is a text in front of the parameters: that up to the first semicolon. -/
theorem isFront_takeWhile (cs : List Char) : IsFront (cs.takeWhile (· ≠ ';')) cs := by
  have hkept : ∀ c ∈ cs.takeWhile (· ≠ ';'), c ≠ ';' :=
    fun c hc => of_decide_eq_true (List.all_eq_true.mp List.all_takeWhile c hc)
  refine ⟨fun hmem => hkept ';' hmem rfl, ?_⟩
  have hwhole := List.takeWhile_append_dropWhile (p := (· ≠ ';')) (l := cs)
  cases hrest : cs.dropWhile (· ≠ ';') with
  | nil =>
      rw [hrest, List.append_nil] at hwhole
      exact .inl hwhole.symm
  | cons c parameters =>
      have hstop := List.head?_dropWhile_not (· ≠ ';') cs
      rw [hrest] at hstop hwhole
      have hsemicolon : c = ';' := by simpa using hstop
      rw [hsemicolon] at hwhole
      exact .inr ⟨parameters, hwhole.symm⟩

/-- There is no other. -/
theorem IsFront.takeWhile_eq {front cs : List Char} (h : IsFront front cs) :
    cs.takeWhile (· ≠ ';') = front := by
  obtain ⟨hfront, hcs⟩ := h
  have hkept : ∀ c ∈ front, decide (c ≠ ';') = true := by
    intro c hc
    refine decide_eq_true fun hsemicolon => hfront ?_
    rwa [hsemicolon] at hc
  obtain rfl | ⟨parameters, rfl⟩ := hcs
  · exact List.takeWhile_eq_self_iff.mpr hkept
  · rw [List.takeWhile_append_of_pos hkept, List.takeWhile_cons_of_neg (by simp), List.append_nil]

/-- What holds of the text in front of the parameters. -/
theorem exists_isFront_iff {P : List Char → Prop} {cs : List Char} :
    (∃ front, IsFront front cs ∧ P front) ↔ P (cs.takeWhile (· ≠ ';')) := by
  constructor
  · intro h
    obtain ⟨front, hfront, hP⟩ := h
    rwa [hfront.takeWhile_eq]
  · intro hP
    exact ⟨_, isFront_takeWhile cs, hP⟩

/-- The essence of a media type is a keyword. -/
theorem essence_eq_iff {word : Keyword} :
    essence mime = word.text ↔
      ∃ front, IsFront front mime.toList ∧ ∃ text, Surrounds text front ∧ word.IsSpelledBy text := by
  rw [exists_isFront_iff, ← Keyword.map_toLower_trimChars_eq_iff, essence, ← String.toList_inj,
    String.toList_ofList]

/-- The essence of a media type ends with a keyword. -/
theorem essence_endsWith_iff {word : Keyword} :
    (essence mime).endsWith word.text = true ↔
      ∃ front, IsFront front mime.toList ∧
        ∃ start text, Surrounds (start ++ text) front ∧ word.IsSpelledBy text := by
  rw [exists_isFront_iff, ← Keyword.suffix_map_toLower_trimChars_iff, essence,
    String.endsWith_eq_endsWith_toSlice, String.Slice.endsWith_string_iff, String.copy_toSlice,
    String.toList_ofList]

/-- A kind with one name is declared by the essence. -/
theorem declares_iff_essence_eq {word : Keyword}
    (h : ∀ text, NamesKind text kind ↔ word.IsSpelledBy text) :
    Declares mime kind ↔ essence mime = word.text := by
  simp only [Declares, h, essence_eq_iff]

/-- Forms in several parts are declared by the essence alone. -/
theorem declares_multipart_iff :
    Declares mime .multipart ↔ essence mime = "multipart/form-data" := by
  refine declares_iff_essence_eq fun text => ⟨fun h => ?_, .multipart⟩
  cases h with
  | multipart h => exact h

/-- Forms with encoded fields are declared by the essence alone. -/
theorem declares_urlEncoded_iff :
    Declares mime .urlEncoded ↔ essence mime = "application/x-www-form-urlencoded" := by
  refine declares_iff_essence_eq fun text => ⟨fun h => ?_, .urlEncoded⟩
  cases h with
  | urlEncoded h => exact h

/-- JSON is declared by the essence or by the end of it. -/
theorem declares_json_iff :
    Declares mime .json ↔
      essence mime = "application/json" ∨ (essence mime).endsWith "+json" = true := by
  have hname := @essence_eq_iff mime jsonName
  have hsuffix := @essence_endsWith_iff mime jsonSuffix
  refine Iff.trans ?_ (or_congr hname hsuffix).symm
  constructor
  · intro h
    obtain ⟨front, hfront, text, hsurrounds, hnames⟩ := h
    cases hnames with
    | json h => exact .inl ⟨front, hfront, text, hsurrounds, h⟩
    | suffixed h => exact .inr ⟨front, hfront, _, _, hsurrounds, h⟩
  · intro h
    rcases h with hname | hsuffix
    · obtain ⟨front, hfront, text, hsurrounds, hspelled⟩ := hname
      exact ⟨front, hfront, text, hsurrounds, .json hspelled⟩
    · obtain ⟨front, hfront, start, text, hsurrounds, hspelled⟩ := hsuffix
      exact ⟨front, hfront, start ++ text, hsurrounds, .suffixed hspelled⟩

/-- Nothing declares that it is of no kind. -/
theorem not_declares_other : ¬Declares mime .other := by
  intro h
  obtain ⟨_, _, _, _, hnames⟩ := h
  cases hnames

/-- A media type is read as of the kind it declares. -/
theorem ofMime_of_declares (h : Declares mime kind) : ofMime mime = kind := by
  cases kind with
  | json =>
      rcases declares_json_iff.mp h with hname | hsuffix
      · simp [ofMime, hname]
      · -- No form has the suffix, though it is looked for after the names of forms.
        have hmultipart : essence mime ≠ "multipart/form-data" := by
          intro hname
          rw [hname] at hsuffix
          exact absurd hsuffix (by decide +kernel)
        have hencoded : essence mime ≠ "application/x-www-form-urlencoded" := by
          intro hname
          rw [hname] at hsuffix
          exact absurd hsuffix (by decide +kernel)
        simp [ofMime, hmultipart, hencoded, hsuffix]
  | multipart => simp [ofMime, declares_multipart_iff.mp h]
  | urlEncoded => simp [ofMime, declares_urlEncoded_iff.mp h]
  | other => exact absurd h not_declares_other

/-- A media type that is read as of some kind declares it. -/
theorem declares_ofMime (h : ofMime mime ≠ .other) : Declares mime (ofMime mime) := by
  generalize hkind : ofMime mime = kind at h
  rw [ofMime] at hkind
  split at hkind
  next hname =>
    cases hkind
    exact declares_json_iff.mpr (.inl hname)
  · split at hkind
    next hname =>
      cases hkind
      exact declares_multipart_iff.mpr hname
    · split at hkind
      next hname =>
        cases hkind
        exact declares_urlEncoded_iff.mpr hname
      · split at hkind
        next hsuffix =>
          cases hkind
          exact declares_json_iff.mpr (.inr hsuffix)
        · exact absurd hkind.symm h

/-- **Kinds.**  A media type is read as of a kind exactly if it is of that kind. -/
theorem ofMime_eq_iff : ofMime mime = kind ↔ IsOfKind mime kind := by
  constructor
  · intro h
    subst h
    by_cases hother : ofMime mime = .other
    · rw [hother]
      refine .other fun kind hdeclares => ?_
      rw [← ofMime_of_declares hdeclares, hother] at hdeclares
      exact not_declares_other hdeclares
    · exact .declared (declares_ofMime hother)
  · intro h
    cases h with
    | declared h => exact ofMime_of_declares h
    | other h =>
        by_contra hother
        exact h _ (declares_ofMime hother)

end ClientGen.MediaKind
