import ClientGen.Proofs.Naming
import ClientGen.Proofs.Text.CasedLetters

/-!
# Which casings are identifiers

The words of a text are its alphanumeric characters in order, cut into pieces, so a casing
has a character of names in every place unless the change of case brings a combining mark
into it.  It starts with the first alphanumeric character of the text in one case or the
other; nothing is put in front of a digit that stands there.

* `flatten_words`: the words together;
* `isNameText_pascal_iff`, `isNameText_camel_iff`, `isNameText_snake_iff`,
  `isNameText_screaming_iff`: each casing;
* `isNameText_casings_iff`: all of them.
-/

namespace ClientGen.Naming

open Text (IsNameChar markedCapitals markedSmall)

/-- An identifier in the simplest sense: it has characters, only those that names are made
of, and no digit of ASCII in front. -/
structure IsNameText (cs : List Char) : Prop where
  ne_nil : cs ≠ []
  chars : ∀ c ∈ cs, IsNameChar c
  head : ∀ c ∈ cs.head?, c.isDigit = false

/-- The first alphanumeric character is a digit of ASCII. -/
def StartsWithDigit (s : String) : Prop :=
  ∃ c ∈ s.toList.find? Text.isAlphanumeric, c.isDigit = true

/-- What is put behind an identifier changes nothing about it. -/
theorem isNameText_append_iff {cs ext : List Char} (hne : cs ≠ [])
    (hext : ∀ c ∈ ext, IsNameChar c) : IsNameText (cs ++ ext) ↔ IsNameText cs := by
  have hhead : (cs ++ ext).head? = cs.head? := List.head?_append_of_ne_nil cs hne
  constructor
  · intro h
    exact ⟨hne, fun c hc => h.chars c (List.mem_append_left ext hc), hhead ▸ h.head⟩
  · intro h
    refine ⟨List.append_ne_nil_of_left_ne_nil hne ext, fun c hc => ?_, hhead ▸ h.head⟩
    exact (List.mem_append.mp hc).elim (h.chars c) (hext c)

/-! ### The words together -/

/-- A word that is finished has the characters that were gathered for it. -/
theorem flatten_finished (acc : List Char) : (finished acc).flatten = acc.reverse := by
  cases acc with
  | nil => rfl
  | cons c acc => simp [finished]

/-- The cut drops the characters that are not alphanumeric and nothing else. -/
theorem flatten_wordsFrom (m : WordCase) (acc cs : List Char) :
    (wordsFrom m acc cs).flatten = acc.reverse ++ cs.filter Text.isAlphanumeric := by
  fun_induction wordsFrom m acc cs with
  | case1 m acc => simp [flatten_finished]
  | case2 m acc c rest hc ih =>
      have hdropped : Text.isAlphanumeric c = false := by simpa using hc
      simp [flatten_finished, ih, hdropped]
  | case3 m acc c rest hc _ ih =>
      have hkept : Text.isAlphanumeric c = true := by simpa using hc
      simp [flatten_finished, ih, hkept]
  | case4 m acc c rest hc _ _ ih =>
      have hkept : Text.isAlphanumeric c = true := by simpa using hc
      simp [flatten_finished, ih, hkept]
  | case5 m acc c rest hc _ _ ih =>
      have hkept : Text.isAlphanumeric c = true := by simpa using hc
      simp [ih, hkept]

/-- **The words together** are the alphanumeric characters of the text, if it has any. -/
theorem flatten_words (s : String) :
    (words s).flatten = s.toList.filter Text.isAlphanumeric ∨
      (s.toList.filter Text.isAlphanumeric = [] ∧ words s = ["unnamed".toList]) := by
  have hall := flatten_wordsFrom .none [] s.toList
  rw [List.reverse_nil, List.nil_append] at hall
  unfold words
  split
  next hwords =>
    rw [hwords] at hall
    exact .inr ⟨hall.symm, rfl⟩
  · exact .inl hall

/-- Words have letters and digits only. -/
theorem isAlphanumeric_of_mem_words {s : String} {word : List Char} {c : Char}
    (hword : word ∈ words s) (hc : c ∈ word) : Text.isAlphanumeric c = true := by
  rcases flatten_words s with hall | ⟨_, hunnamed⟩
  · have hmem : c ∈ (words s).flatten := List.mem_flatten.mpr ⟨word, hword, hc⟩
    rw [hall] at hmem
    exact (List.mem_filter.mp hmem).2
  · rw [hunnamed] at hword
    rw [List.mem_singleton.mp hword] at hc
    have hletters : "unnamed".toList.all Text.isAlphanumeric = true := by decide
    exact List.all_eq_true.mp hletters c hc

/-- The letters of `unnamed` apart, a character that is alphanumeric stands in a word exactly
if it stands in the text. -/
theorem exists_mem_words_iff {s : String} {c : Char} (hc : Text.isAlphanumeric c = true)
    (hne : c ∉ "unnamed".toList) : (∃ word ∈ words s, c ∈ word) ↔ c ∈ s.toList := by
  rw [← List.mem_flatten]
  rcases flatten_words s with hall | ⟨hnone, hunnamed⟩
  · rw [hall, List.mem_filter]
    exact ⟨fun h => h.1, fun h => ⟨h, hc⟩⟩
  · rw [hunnamed, List.flatten_singleton]
    refine ⟨fun h => absurd h hne, fun h => ?_⟩
    have hmem : c ∈ s.toList.filter Text.isAlphanumeric := List.mem_filter.mpr ⟨h, hc⟩
    rw [hnone] at hmem
    cases hmem

/-- The letters that need a mark are no letters of `unnamed`. -/
theorem exists_mem_words_iff_of_marked {s : String} {c : Char} (hc : c ∈ markedCapitals) :
    (∃ word ∈ words s, c ∈ word) ↔ c ∈ s.toList := by
  have hunnamed : "unnamed".toList.all (fun c => decide (c ∉ markedCapitals)) = true := by decide
  refine exists_mem_words_iff (Text.isAlphanumeric_of_mem_markedCapitals c hc) fun hletter => ?_
  exact of_decide_eq_true (List.all_eq_true.mp hunnamed c hletter) hc

/-- The one capital whose small letter has a mark is in a word exactly if it is in the text. -/
theorem exists_markedSmall_mem_words_iff {s : String} :
    (∃ word ∈ words s, markedSmall ∈ word) ↔ markedSmall ∈ s.toList :=
  exists_mem_words_iff (by decide +kernel) (by decide)

/-- The first word, and its first character. -/
theorem exists_words_eq (s : String) :
    ∃ c word ws, words s = (c :: word) :: ws ∧ (StartsWithDigit s ↔ c.isDigit = true) := by
  obtain ⟨first, ws, hwords⟩ := List.exists_cons_of_ne_nil (words_ne_nil s)
  have hmem : first ∈ words s := hwords ▸ List.mem_cons_self
  obtain ⟨c, word, rfl⟩ := List.exists_cons_of_ne_nil (ne_nil_of_mem_words hmem)
  refine ⟨c, word, ws, hwords, ?_⟩
  unfold StartsWithDigit
  rw [← List.head?_filter]
  rcases flatten_words s with hall | ⟨hnone, hunnamed⟩
  · rw [← hall, hwords]
    simp
  · rw [hnone]
    rw [hunnamed] at hwords
    have hc : c = 'u' := by simpa using congrArg (fun ws => ws.flatten.head?) hwords.symm
    simp [hc]

/-! ### Words in other cases -/

variable {word : List Char}

/-- A word in small letters is spelled with the characters of names unless it has that capital. -/
theorem forall_mem_lowered_iff (hword : ∀ c ∈ word, Text.isAlphanumeric c = true) :
    (∀ d ∈ lowered word, IsNameChar d) ↔ markedSmall ∉ word := by
  fun_induction lowered word with
  | case1 => simp
  | case2 =>
      have hsigma : IsNameChar 'ς' ∧ markedSmall ≠ 'Σ' := by decide
      simp [hsigma]
  | case3 c rest _ ih =>
      have hc := Text.forall_mem_lower_iff (hword c List.mem_cons_self)
      have hrest := ih fun d hd => hword d (List.mem_cons_of_mem c hd)
      rw [List.forall_mem_append, hc, hrest, List.mem_cons, not_or, ne_comm]

/-- A word in capitals is, but for the letters whose capitals have marks. -/
theorem forall_mem_uppered_iff (hword : ∀ c ∈ word, Text.isAlphanumeric c = true) :
    (∀ d ∈ uppered word, IsNameChar d) ↔ ∀ c ∈ word, c ∉ markedCapitals := by
  unfold uppered
  rw [List.forall_mem_flatMap]
  exact forall₂_congr fun c hc => Text.forall_mem_upper_iff (hword c hc)

/-- A word with a capital in front is, but for both at their places. -/
theorem forall_mem_capitalized_iff (hword : ∀ c ∈ word, Text.isAlphanumeric c = true) :
    (∀ d ∈ capitalized word, IsNameChar d) ↔
      (∀ c ∈ word.head?, c ∉ markedCapitals) ∧ markedSmall ∉ word.tail := by
  cases word with
  | nil => simp [capitalized]
  | cons c rest =>
      have hc := Text.forall_mem_upper_iff (hword c List.mem_cons_self)
      have hrest := forall_mem_lowered_iff fun d hd => hword d (List.mem_cons_of_mem c hd)
      rw [capitalized, List.forall_mem_append, hc, hrest]
      simp

/-- A text whose first character is a digit of ASCII exactly if some character is one. -/
def BeginsLike (c : Char) (cs : List Char) : Prop := ∃ d ∈ cs.head?, d.isDigit = c.isDigit

/-- What stands behind a text does not change what it begins like. -/
theorem BeginsLike.append {c : Char} {cs : List Char} (h : BeginsLike c cs) (ext : List Char) :
    BeginsLike c (cs ++ ext) := by
  obtain ⟨d, hd, hdigit⟩ := h
  exact ⟨d, by rw [List.head?_append, hd]; rfl, hdigit⟩

/-- A text that begins like a character is a name unless that character is a digit. -/
theorem BeginsLike.isNameText_iff {c : Char} {cs : List Char} (h : BeginsLike c cs) :
    IsNameText cs ↔ c.isDigit = false ∧ ∀ d ∈ cs, IsNameChar d := by
  obtain ⟨d, hd, hdigit⟩ := h
  constructor
  · exact fun hname => ⟨hdigit ▸ hname.head d hd, hname.chars⟩
  · rintro ⟨hc, hchars⟩
    refine ⟨fun hnil => by simp [hnil] at hd, hchars, fun e he => ?_⟩
    rw [hd] at he
    rw [← Option.some.inj he, hdigit, hc]

/-- The capital of a character begins like the character. -/
theorem beginsLike_upper (c : Char) : BeginsLike c (Text.upper c) := by
  obtain ⟨d, rest, hupper⟩ := List.exists_cons_of_ne_nil (Text.upper_ne_nil c)
  have hd : d ∈ Text.upper c := hupper ▸ List.mem_cons_self
  exact ⟨d, by rw [hupper]; rfl, Text.isDigit_of_mem_upper hd⟩

theorem beginsLike_uppered (c : Char) (word : List Char) : BeginsLike c (uppered (c :: word)) := by
  rw [uppered, List.flatMap_cons]
  exact (beginsLike_upper c).append _

theorem beginsLike_capitalized (c : Char) (word : List Char) :
    BeginsLike c (capitalized (c :: word)) :=
  (beginsLike_upper c).append _

theorem beginsLike_lowered (c : Char) (word : List Char) : BeginsLike c (lowered (c :: word)) := by
  by_cases hsigma : c = 'Σ' ∧ word = []
  · rw [hsigma.1, hsigma.2]
    exact ⟨'ς', rfl, by decide⟩
  · obtain ⟨d, rest, hlower⟩ := List.exists_cons_of_ne_nil (Text.lower_ne_nil c)
    have hd : d ∈ Text.lower c := hlower ▸ List.mem_cons_self
    rw [lowered, hlower]
    · exact ⟨d, rfl, Text.isDigit_of_mem_lower hd⟩
    · exact fun hc hnil => hsigma ⟨hc, hnil⟩

/-! ### Words with underscores between them -/

/-- The first word, and each of the others behind an underscore. -/
theorem toList_underscored_cons (word : List Char) (ws : List (List Char)) :
    (underscored (word :: ws)).toList = word ++ ws.flatMap fun next => '_' :: next := by
  rw [underscored, String.toList_ofList]
  induction ws generalizing word with
  | nil => simp
  | cons next ws ih =>
      rw [List.intercalate_cons_cons, ih, List.flatMap_cons, List.append_assoc]
      rfl

/-- Underscores between words are characters of names. -/
theorem forall_mem_underscored_iff (word : List Char) (ws : List (List Char)) :
    (∀ d ∈ (underscored (word :: ws)).toList, IsNameChar d) ↔
      ∀ next ∈ word :: ws, ∀ d ∈ next, IsNameChar d := by
  have hmark : IsNameChar '_' := .inr rfl
  rw [toList_underscored_cons, List.forall_mem_append, List.forall_mem_flatMap,
    List.forall_mem_cons]
  simp only [List.forall_mem_cons, hmark, true_and]

/-! ### The casings -/

variable (s : String)

/-- A name in Pascal case begins like its first word. -/
theorem beginsLike_pascal {c : Char} {first : List Char} {ws : List (List Char)}
    (hwords : words s = (c :: first) :: ws) : BeginsLike c (Name.ofText s).pascal.toList := by
  have hpascal : (Name.ofText s).pascal.toList = (words s).flatMap capitalized :=
    String.toList_ofList
  rw [hpascal, hwords, List.flatMap_cons]
  exact (beginsLike_capitalized c first).append _

/-- No text has an empty name in Pascal case. -/
theorem pascal_ne_empty : (Name.ofText s).pascal ≠ "" := by
  obtain ⟨c, first, ws, hwords, _⟩ := exists_words_eq s
  obtain ⟨d, hd, _⟩ := beginsLike_pascal s hwords
  intro hempty
  rw [hempty] at hd
  cases hd

/-- The capitalized words side by side are an identifier exactly if the text starts with no
digit, no word starts with a letter whose capital needs a mark, and no word has a letter
behind its first whose small form needs one. -/
theorem isNameText_pascal_iff :
    IsNameText (Name.ofText s).pascal.toList ↔ ¬ StartsWithDigit s ∧
      ∀ word ∈ words s, (∀ c ∈ word.head?, c ∉ markedCapitals) ∧ markedSmall ∉ word.tail := by
  obtain ⟨c, first, ws, hwords, hdigit⟩ := exists_words_eq s
  have hpascal : (Name.ofText s).pascal.toList = (words s).flatMap capitalized :=
    String.toList_ofList
  rw [(beginsLike_pascal s hwords).isNameText_iff, hdigit, Bool.not_eq_true, hpascal,
    List.forall_mem_flatMap]
  refine and_congr_right fun _ => forall₂_congr fun word hword => ?_
  exact forall_mem_capitalized_iff fun c hc => isAlphanumeric_of_mem_words hword hc

/-- The same with the first word in lowercase. -/
theorem isNameText_camel_iff :
    IsNameText (Name.ofText s).camel.toList ↔ ¬ StartsWithDigit s ∧
      (∀ word ∈ (words s).head?, markedSmall ∉ word) ∧
      ∀ word ∈ (words s).tail,
        (∀ c ∈ word.head?, c ∉ markedCapitals) ∧ markedSmall ∉ word.tail := by
  obtain ⟨c, first, ws, hwords, hdigit⟩ := exists_words_eq s
  have halpha : ∀ word ∈ (c :: first) :: ws, ∀ c ∈ word, Text.isAlphanumeric c = true :=
    fun word hword c hc => isAlphanumeric_of_mem_words (hwords ▸ hword) hc
  have hcamel : (Name.ofText s).camel.toList = lowered (c :: first) ++ ws.flatMap capitalized := by
    have hname : (Name.ofText s).camel = camel (words s) := rfl
    rw [hname, hwords, camel, String.toList_ofList]
  have hbegins : BeginsLike c (Name.ofText s).camel.toList := by
    rw [hcamel]
    exact (beginsLike_lowered c first).append _
  have hrest : ∀ word ∈ ws, (∀ d ∈ capitalized word, IsNameChar d) ↔
      (∀ c ∈ word.head?, c ∉ markedCapitals) ∧ markedSmall ∉ word.tail := fun word hword =>
    forall_mem_capitalized_iff (halpha word (List.mem_cons_of_mem _ hword))
  rw [hbegins.isNameText_iff, hdigit, Bool.not_eq_true, hcamel, List.forall_mem_append,
    List.forall_mem_flatMap, forall_mem_lowered_iff (halpha _ List.mem_cons_self), hwords,
    forall₂_congr hrest]
  simp

/-- The words in some case with underscores between them. -/
theorem isNameText_underscored_iff {change : List Char → List Char}
    (hchange : ∀ c word, BeginsLike c (change (c :: word))) :
    IsNameText (underscored ((words s).map change)).toList ↔ ¬ StartsWithDigit s ∧
      ∀ word ∈ words s, ∀ d ∈ change word, IsNameChar d := by
  obtain ⟨c, first, ws, hwords, hdigit⟩ := exists_words_eq s
  have hbegins : BeginsLike c (underscored ((words s).map change)).toList := by
    rw [hwords, List.map_cons, toList_underscored_cons]
    exact (hchange c first).append _
  rw [hbegins.isNameText_iff, hdigit, Bool.not_eq_true, hwords, List.map_cons,
    forall_mem_underscored_iff, ← List.map_cons, List.forall_mem_map]

/-- In lowercase they are an identifier exactly if the text starts with no digit and holds no
letter whose small form needs a mark. -/
theorem isNameText_snake_iff :
    IsNameText (Name.ofText s).snake.toList ↔ ¬ StartsWithDigit s ∧ markedSmall ∉ s.toList := by
  refine (isNameText_underscored_iff s beginsLike_lowered).trans (and_congr_right fun _ => ?_)
  have hword : ∀ word ∈ words s, (∀ d ∈ lowered word, IsNameChar d) ↔ markedSmall ∉ word :=
    fun word hword => forall_mem_lowered_iff fun c hc => isAlphanumeric_of_mem_words hword hc
  rw [forall₂_congr hword, ← exists_markedSmall_mem_words_iff]
  simp

/-- In uppercase, if it starts with no digit and holds no letter whose capital needs one. -/
theorem isNameText_screaming_iff :
    IsNameText (Name.ofText s).screaming.toList ↔ ¬ StartsWithDigit s ∧
      ∀ c ∈ s.toList, c ∉ markedCapitals := by
  refine (isNameText_underscored_iff s beginsLike_uppered).trans (and_congr_right fun _ => ?_)
  have hword : ∀ word ∈ words s, (∀ d ∈ uppered word, IsNameChar d) ↔
      ∀ c ∈ word, c ∉ markedCapitals := fun word hword =>
    forall_mem_uppered_iff fun c hc => isAlphanumeric_of_mem_words hword hc
  rw [forall₂_congr hword]
  constructor
  · intro h c hc hmarked
    obtain ⟨word, hword, hmem⟩ := (exists_mem_words_iff_of_marked hmarked).mpr hc
    exact h word hword c hmem hmarked
  · exact fun h word hword c hmem hmarked =>
      h c ((exists_mem_words_iff_of_marked hmarked).mp ⟨word, hword, hmem⟩) hmarked

/-- A text all of whose casings are identifiers. -/
structure IsCasable : Prop where
  /-- The first alphanumeric character is no digit. -/
  starts : ¬ StartsWithDigit s
  /-- No capital needs a mark. -/
  capitals : ∀ c ∈ s.toList, c ∉ markedCapitals
  /-- No small letter needs one. -/
  smalls : markedSmall ∉ s.toList

/-- The letters of a word are letters of the text, marked ones at any rate. -/
theorem IsCasable.forall_mem_words (h : IsCasable s) :
    ∀ word ∈ words s, (∀ c ∈ word, c ∉ markedCapitals) ∧ markedSmall ∉ word := by
  intro word hword
  constructor
  · intro c hc hmarked
    exact h.capitals c ((exists_mem_words_iff_of_marked hmarked).mp ⟨word, hword, hc⟩) hmarked
  · exact fun hsmall => h.smalls (exists_markedSmall_mem_words_iff.mp ⟨word, hword, hsmall⟩)

/-- **Casings.**  All casings of a text are identifiers exactly if its first alphanumeric
character is no digit and none of its letters needs a mark in another case. -/
theorem isNameText_casings_iff :
    (IsNameText (Name.ofText s).pascal.toList ∧ IsNameText (Name.ofText s).camel.toList ∧
      IsNameText (Name.ofText s).snake.toList ∧ IsNameText (Name.ofText s).screaming.toList) ↔
      IsCasable s := by
  rw [isNameText_snake_iff, isNameText_screaming_iff]
  constructor
  · rintro ⟨_, _, ⟨hstarts, hsmalls⟩, _, hcapitals⟩
    exact ⟨hstarts, hcapitals, hsmalls⟩
  · intro h
    have hwords := h.forall_mem_words
    have hcapital : ∀ word ∈ words s,
        (∀ c ∈ word.head?, c ∉ markedCapitals) ∧ markedSmall ∉ word.tail := fun word hword =>
      ⟨fun c hc => (hwords word hword).1 c (List.mem_of_mem_head? hc),
        fun hmem => (hwords word hword).2 (List.mem_of_mem_tail hmem)⟩
    refine ⟨(isNameText_pascal_iff s).mpr ⟨h.starts, hcapital⟩, ?_, ⟨h.starts, h.smalls⟩,
      h.starts, h.capitals⟩
    refine (isNameText_camel_iff s).mpr ⟨h.starts, fun word hword => ?_, fun word hword => ?_⟩
    · exact (hwords word (List.mem_of_mem_head? hword)).2
    · exact hcapital word (List.mem_of_mem_tail hword)

end ClientGen.Naming
