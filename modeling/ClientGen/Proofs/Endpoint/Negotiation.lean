import ClientGen.Endpoint.Negotiation
import ClientGen.Proofs.Document.MediaKind
import ClientGen.Proofs.Document.StatusCode
import Mathlib.Data.List.Basic

/-!
# Which representation is negotiated

Of several representations of a request the first of the best kind is used, and of several
responses the first that declares a success, with its first JSON representation.  Where
there is none to prefer the first at all is used.  So there is always a choice if there is
anything to choose from, and how the content of a request is ordered makes no difference to
the kind that is used.

* `IsFirstOf`, `IsPreferredOf`: what it is to be chosen;
* `IsBest`, `requestChoice?_eq_some_iff`: the content of a request;
* `negotiation`: requests, responses and their bodies.
-/

namespace ClientGen

/-! ### Firsts -/

section

variable {α : Type} {P : α → Prop} {p : α → Bool} {items : List α} {a : α}

/-- An item is the first of those of which something holds. -/
def IsFirstOf (P : α → Prop) (items : List α) (a : α) : Prop :=
  ∃ front back, items = front ++ a :: back ∧ P a ∧ ∀ b ∈ front, ¬P b

/-- An item is the first of which something holds, or the first at all if it holds of none. -/
def IsPreferredOf (P : α → Prop) (items : List α) (a : α) : Prop :=
  IsFirstOf P items a ∨ (∀ b ∈ items, ¬P b) ∧ items.head? = some a

theorem IsFirstOf.mem (h : IsFirstOf P items a) : a ∈ items := by
  obtain ⟨front, back, rfl, _⟩ := h
  exact List.mem_append_right _ List.mem_cons_self

theorem IsFirstOf.holds (h : IsFirstOf P items a) : P a := by
  obtain ⟨_, _, _, ha, _⟩ := h
  exact ha

/-- A search finds the first item of which its test holds. -/
theorem find?_eq_some_iff_isFirstOf (hp : ∀ b, p b = true ↔ P b) :
    items.find? p = some a ↔ IsFirstOf P items a := by
  rw [List.find?_eq_some_iff_append]
  constructor
  · intro h
    obtain ⟨ha, front, back, rfl, hfront⟩ := h
    refine ⟨front, back, rfl, (hp a).mp ha, fun b hb hP => ?_⟩
    have hnot := hfront b hb
    rw [(hp b).mpr hP] at hnot
    cases hnot
  · intro h
    obtain ⟨front, back, rfl, ha, hfront⟩ := h
    refine ⟨(hp a).mpr ha, front, back, rfl, fun b hb => ?_⟩
    rw [Bool.not_eq_true', Bool.eq_false_iff]
    exact fun hb' => hfront b hb ((hp b).mp hb')

/-- There is one first item at most. -/
theorem IsFirstOf.eq {b : α} (ha : IsFirstOf P items a) (hb : IsFirstOf P items b) : a = b := by
  classical
  have hp : ∀ c, decide (P c) = true ↔ P c := fun c => decide_eq_true_iff
  rw [← find?_eq_some_iff_isFirstOf hp] at ha hb
  exact Option.some.inj (ha.symm.trans hb)

/-- **Preferences.**  A search that falls back on the first item finds what is preferred. -/
theorem find?_or_head?_eq_some_iff (hp : ∀ b, p b = true ↔ P b) :
    (items.find? p).or items.head? = some a ↔ IsPreferredOf P items a := by
  unfold IsPreferredOf
  rw [← find?_eq_some_iff_isFirstOf hp]
  cases hfound : items.find? p with
  | some b =>
      have hmem := List.mem_of_find?_eq_some hfound
      have hb := (hp b).mp (List.find?_some hfound)
      constructor
      · exact .inl
      · intro h
        exact h.resolve_right fun hnone => hnone.1 b hmem hb
  | none =>
      have hnone : ∀ b ∈ items, ¬P b := fun b hb hP =>
        List.find?_eq_none.mp hfound b hb ((hp b).mpr hP)
      rw [Option.none_or]
      constructor
      · intro h
        exact .inr ⟨hnone, h⟩
      · intro h
        rcases h with hsome | ⟨_, hhead⟩
        · cases hsome
        · exact hhead

/-- It finds something wherever there is something. -/
theorem find?_or_head?_eq_none_iff : (items.find? p).or items.head? = none ↔ items = [] := by
  cases items with
  | nil => simp
  | cons b rest => simp

/-- What is made of an entry that is known. -/
theorem map_entry_eq_some_iff {κ β γ : Type} {found : Option (κ × β)} {P : κ × β → Prop}
    {f : κ × β → γ} {result : γ} (h : ∀ entry, found = some entry ↔ P entry) :
    found.map f = some result ↔ ∃ k b, P (k, b) ∧ result = f (k, b) := by
  rw [Option.map_eq_some_iff]
  constructor
  · intro hmap
    obtain ⟨⟨k, b⟩, hentry, hresult⟩ := hmap
    exact ⟨k, b, (h _).mp hentry, hresult.symm⟩
  · intro hmap
    obtain ⟨k, b, hentry, hresult⟩ := hmap
    exact ⟨(k, b), (h _).mpr hentry, hresult.symm⟩

end

/-! ### Ranks -/

section Ranks

variable {α : Type} {rank? : α → Option Nat} {items : List α} {a : α}

/-- Nothing is found where nothing has a rank. -/
theorem firstBest?_eq_none (h : firstBest? rank? items = none) : ∀ b ∈ items, rank? b = none := by
  fun_induction firstBest? rank? items with
  | case1 => simp
  | case2 b rest hb ih => exact List.forall_mem_cons.mpr ⟨hb, ih h⟩
  | case3 b rest r hrest hb ih => cases h
  | case4 b rest r c hrest hb hlt ih => cases h
  | case5 b rest r c hrest hb hlt ih => cases h

/-- An item has the least rank, and is the first that has it. -/
structure HasLeastRank (rank? : α → Option Nat) (items : List α) (a : α) (r : Nat) : Prop where
  rank : rank? a = some r
  least : ∀ b ∈ items, ∀ s ∈ rank? b, r ≤ s
  first : ∃ front back, items = front ++ a :: back ∧ ∀ b ∈ front, ∀ s ∈ rank? b, r < s

/-- It stays so behind an item that has no rank as little. -/
theorem HasLeastRank.cons {b : α} {r : Nat} (h : HasLeastRank rank? items a r)
    (hb : ∀ s ∈ rank? b, r < s) : HasLeastRank rank? (b :: items) a r := by
  obtain ⟨front, back, hsplit, hfront⟩ := h.first
  refine ⟨h.rank, ?_, b :: front, back, by rw [hsplit, List.cons_append], ?_⟩
  · exact List.forall_mem_cons.mpr ⟨fun s hs => Nat.le_of_lt (hb s hs), h.least⟩
  · exact List.forall_mem_cons.mpr ⟨hb, hfront⟩

/-- It is so in front of items that have no less rank. -/
theorem hasLeastRank_head {r : Nat} (ha : rank? a = some r)
    (hothers : ∀ b ∈ items, ∀ s ∈ rank? b, r ≤ s) : HasLeastRank rank? (a :: items) a r := by
  have hfirst : ∀ s ∈ rank? a, r ≤ s := by simp [ha]
  exact ⟨ha, List.forall_mem_cons.mpr ⟨hfirst, hothers⟩, [], items, rfl, by simp⟩

/-- What is found is the first of the least rank. -/
theorem firstBest?_eq_some (h : firstBest? rank? items = some a) :
    ∃ r, HasLeastRank rank? items a r := by
  fun_induction firstBest? rank? items generalizing a with
  | case1 => cases h
  | case2 b rest hb ih =>
      obtain ⟨r, hrest⟩ := ih h
      exact ⟨r, hrest.cons (by simp [hb])⟩
  | case3 b rest r hrest hb ih =>
      cases h
      refine ⟨r, hasLeastRank_head hb fun c hc s hs => ?_⟩
      rw [firstBest?_eq_none hrest c hc] at hs
      cases hs
  | case4 b rest r c hrest hb hlt ih =>
      cases h
      obtain ⟨s, hc⟩ := ih hrest
      have hsr : s < r := by simpa [hc.rank] using hlt
      exact ⟨s, hc.cons (by simpa [hb] using hsr)⟩
  | case5 b rest r c hrest hb hlt ih =>
      cases h
      obtain ⟨s, hc⟩ := ih hrest
      have hle : r ≤ s := by simpa [hc.rank] using hlt
      exact ⟨r, hasLeastRank_head hb fun d hd k hk => Nat.le_trans hle (hc.least d hd k hk)⟩

end Ranks

/-! ### Requests -/

/-- The place of a kind in the order in which kinds are preferred for a request. -/
def MediaKind.place : MediaKind → Nat
  | json => 0
  | multipart => 1
  | urlEncoded => 2
  | other => 3

/-- No two kinds have one place. -/
theorem place_injective : Function.Injective MediaKind.place := by
  intro k l h
  cases k <;> cases l <;> first | rfl | cases h

/-- The place of the kind of an entry. -/
def placeOf (entry : String × MediaType) : Nat := (MediaKind.ofMime entry.1).place

/-- Kinds come in the order of their ranks, and the kind without a rank comes last. -/
theorem placeOf_eq (entry : String × MediaType) : placeOf entry = (requestRank? entry).getD 3 := by
  unfold placeOf requestRank?
  cases MediaKind.ofMime entry.1 <;> rfl

/-- There are three ranks. -/
theorem requestRank?_lt {entry : String × MediaType} {r : Nat} (h : requestRank? entry = some r) :
    r < 3 := by
  unfold requestRank? at h
  cases hkind : MediaKind.ofMime entry.1 <;> rw [hkind] at h <;> cases h <;> decide

/-- What is no more than the rank of an entry, if it has one, is no more than its place. -/
theorem le_placeOf {entry : String × MediaType} {r : Nat} (hr : r ≤ 3)
    (h : ∀ s ∈ requestRank? entry, r ≤ s) : r ≤ placeOf entry := by
  rw [placeOf_eq]
  cases hrank : requestRank? entry with
  | none => exact hr
  | some s => exact h s hrank

/-- No kind in a request's content is preferred to that of an entry. -/
def IsBest (content : Content) (entry : String × MediaType) : Prop :=
  ∃ kind, MediaKind.IsOfKind entry.1 kind ∧
    ∀ other ∈ content, ∀ k, MediaKind.IsOfKind other.1 k → kind.place ≤ k.place

/-- The best entry can be told by the places of the kinds that are read. -/
theorem isBest_iff {content : Content} {entry : String × MediaType} :
    IsBest content entry ↔ ∀ other ∈ content, placeOf entry ≤ placeOf other := by
  simp only [IsBest, placeOf, ← MediaKind.ofMime_eq_iff, exists_eq_left', forall_eq']

/-- What is used for a request is the first entry of the best kind. -/
theorem isFirstOf_of_requestChoice? {content : Content} {entry : String × MediaType}
    (h : requestChoice? content = some entry) : IsFirstOf (IsBest content) content entry := by
  unfold requestChoice? at h
  cases hbest : firstBest? requestRank? content with
  | some best =>
      rw [hbest] at h
      cases h
      obtain ⟨r, hrank, hleast, front, back, hsplit, hfront⟩ := firstBest?_eq_some hbest
      have hr := requestRank?_lt hrank
      have hplace : placeOf entry = r := by rw [placeOf_eq, hrank, Option.getD_some]
      have hentry : entry ∈ content := by simp [hsplit]
      refine ⟨front, back, hsplit, ?_, ?_⟩
      · refine isBest_iff.mpr fun other hother => ?_
        rw [hplace]
        exact le_placeOf (Nat.le_of_lt hr) (hleast other hother)
      · intro other hother hbetter
        have hlt : r < placeOf other := le_placeOf hr (hfront other hother)
        have hle := isBest_iff.mp hbetter entry hentry
        omega
  | none =>
      rw [hbest, Option.none_or] at h
      have hplace : ∀ other ∈ content, placeOf other = 3 := by
        intro other hother
        rw [placeOf_eq, firstBest?_eq_none hbest other hother, Option.getD_none]
      obtain ⟨rest, hsplit⟩ := List.head?_eq_some_iff.mp h
      refine ⟨[], rest, hsplit, isBest_iff.mpr fun other hother => ?_, by simp⟩
      exact Nat.le_of_eq ((hplace entry (List.mem_of_mem_head? h)).trans (hplace other hother).symm)

/-- There is no choice only where there is nothing to choose from. -/
theorem requestChoice?_eq_none_iff {content : Content} :
    requestChoice? content = none ↔ content = [] := by
  unfold requestChoice?
  cases content with
  | nil => simp [firstBest?]
  | cons entry rest => simp

/-- **Requests.**  The entry that is used is the first of the best kind, and the only one. -/
theorem requestChoice?_eq_some_iff {content : Content} {entry : String × MediaType} :
    requestChoice? content = some entry ↔ IsFirstOf (IsBest content) content entry := by
  constructor
  · exact isFirstOf_of_requestChoice?
  · intro h
    cases hchoice : requestChoice? content with
    | some other => rw [h.eq (isFirstOf_of_requestChoice? hchoice)]
    | none =>
        have hmem := h.mem
        rw [requestChoice?_eq_none_iff.mp hchoice] at hmem
        cases hmem

/-- The order of the entries makes no difference to the kind that is used. -/
theorem placeOf_requestChoice?_of_perm {content other : Content} (h : other.Perm content) :
    (requestChoice? other).map placeOf = (requestChoice? content).map placeOf := by
  cases hfirst : requestChoice? content with
  | none =>
      have hnil := requestChoice?_eq_none_iff.mp hfirst
      rw [hnil] at h
      rw [requestChoice?_eq_none_iff.mpr h.eq_nil]
  | some entry =>
      cases hsecond : requestChoice? other with
      | none =>
          have hnil := requestChoice?_eq_none_iff.mp hsecond
          rw [hnil] at h
          rw [requestChoice?_eq_none_iff.mpr h.symm.eq_nil] at hfirst
          cases hfirst
      | some entry' =>
          have hentry := isFirstOf_of_requestChoice? hfirst
          have hentry' := isFirstOf_of_requestChoice? hsecond
          have hle := isBest_iff.mp hentry.holds entry' (h.mem_iff.mp hentry'.mem)
          have hge := isBest_iff.mp hentry'.holds entry (h.mem_iff.mpr hentry.mem)
          exact congrArg some (Nat.le_antisymm hge hle)

/-- The representation that is used for a request comes from the first entry of the best kind. -/
theorem chooseRequest?_eq_some_iff {body : RequestBody} {chosen : Representation} :
    chooseRequest? body = some chosen ↔
      ∃ mime media, IsFirstOf (IsBest body.content) body.content (mime, media) ∧
        chosen = ⟨mime, body.required, media.schema⟩ :=
  map_entry_eq_some_iff fun _ => requestChoice?_eq_some_iff

/-- A request without a representation has no content. -/
theorem chooseRequest?_eq_none_iff {body : RequestBody} :
    chooseRequest? body = none ↔ body.content = [] := by
  unfold chooseRequest?
  rw [Option.map_eq_none_iff]
  exact requestChoice?_eq_none_iff

/-- The kind of the representation that is used has the place of the entry it comes from. -/
theorem map_place_kind_chooseRequest? (body : RequestBody) :
    ((chooseRequest? body).map Representation.kind).map MediaKind.place =
      (requestChoice? body.content).map placeOf := by
  unfold chooseRequest?
  cases requestChoice? body.content with
  | none => rfl
  | some entry => rfl

/-- The order in which a request's content is declared makes no difference to the kind. -/
theorem kind_chooseRequest?_of_perm {body other : RequestBody}
    (h : other.content.Perm body.content) :
    (chooseRequest? other).map Representation.kind =
      (chooseRequest? body).map Representation.kind := by
  apply Option.map_injective place_injective
  rw [map_place_kind_chooseRequest?, map_place_kind_chooseRequest?]
  exact placeOf_requestChoice?_of_perm h

/-! ### Responses -/

/-- The representation that is used for a response is the first JSON one, or the first. -/
theorem responseBody?_eq_some_iff {content : Content} {body : Representation} :
    responseBody? content = some body ↔
      ∃ mime media,
        IsPreferredOf (fun entry => MediaKind.IsOfKind entry.1 .json) content (mime, media) ∧
          body = ⟨mime, true, media.schema⟩ := by
  have hp : ∀ entry : String × MediaType,
      isJsonEntry entry = true ↔ MediaKind.IsOfKind entry.1 .json :=
    fun _ => beq_iff_eq.trans MediaKind.ofMime_eq_iff
  exact map_entry_eq_some_iff fun _ => find?_or_head?_eq_some_iff hp

/-- A response without a representation has no content. -/
theorem responseBody?_eq_none_iff {content : Content} :
    responseBody? content = none ↔ content = [] := by
  unfold responseBody?
  rw [Option.map_eq_none_iff]
  exact find?_or_head?_eq_none_iff

/-- An entry whose response is given in place. -/
def givenInPlace (entry : String × Response) : String × OrRef Response := (entry.1, .inline entry.2)

/-- An entry is a success by its key. -/
theorem isSuccessEntry_givenInPlace (entry : String × Response) :
    (isSuccessEntry ∘ givenInPlace) entry = true ↔ StatusCode.IsSuccessKey entry.1 :=
  StatusCode.isSuccess_ofKey_iff

/-- Of responses that are given in place one is looked for, and then read. -/
theorem chooseResponse?_givenInPlace (responses : List (String × Response)) :
    chooseResponse? (responses.map givenInPlace) =
      ((responses.find? (isSuccessEntry ∘ givenInPlace)).or responses.head?).map fun entry =>
        ⟨.ofKey entry.1, entry.2.description, responseBody? entry.2.content⟩ := by
  unfold chooseResponse?
  rw [List.find?_map, List.head?_map, ← Option.map_or]
  cases (responses.find? (isSuccessEntry ∘ givenInPlace)).or responses.head? with
  | none => rfl
  | some entry => rfl

/-- The response that is used is the first that declares a success, or the first. -/
theorem chooseResponse?_eq_some_iff {responses : List (String × Response)}
    {chosen : ChosenResponse} :
    chooseResponse? (responses.map givenInPlace) = some chosen ↔
      ∃ key response,
        IsPreferredOf (fun entry => StatusCode.IsSuccessKey entry.1) responses (key, response) ∧
          chosen = ⟨.ofKey key, response.description, responseBody? response.content⟩ := by
  rw [chooseResponse?_givenInPlace]
  exact map_entry_eq_some_iff fun _ => find?_or_head?_eq_some_iff isSuccessEntry_givenInPlace

/-- An operation without a response declares none. -/
theorem chooseResponse?_eq_none_iff {responses : List (String × Response)} :
    chooseResponse? (responses.map givenInPlace) = none ↔ responses = [] := by
  rw [chooseResponse?_givenInPlace, Option.map_eq_none_iff]
  exact find?_or_head?_eq_none_iff

/-- A representation has the kind of its media type. -/
theorem isOfKind_kind (r : Representation) : MediaKind.IsOfKind r.mime r.kind :=
  MediaKind.ofMime_eq_iff.mp rfl

/-- **Negotiation.**  For a request there is a choice unless its content is empty: the first
entry of the best kind, so that the kind does not depend on the order of the content.  Of
responses that are given in place the first that declares a success is chosen, or else the
first, and of its content the first JSON entry, or else the first; again there is a choice
wherever there is something to choose from.  A representation that is chosen has the kind that
its media type declares, whatever its parameters, the blanks around it and the case of its
letters are. -/
theorem negotiation :
    (∀ body : RequestBody,
      (chooseRequest? body = none ↔ body.content = []) ∧
      (∀ chosen, chooseRequest? body = some chosen ↔
        ∃ mime media, IsFirstOf (IsBest body.content) body.content (mime, media) ∧
          chosen = ⟨mime, body.required, media.schema⟩) ∧
      ∀ other : RequestBody, other.content.Perm body.content →
        (chooseRequest? other).map Representation.kind =
          (chooseRequest? body).map Representation.kind) ∧
    (∀ responses : List (String × Response),
      (chooseResponse? (responses.map givenInPlace) = none ↔ responses = []) ∧
      ∀ chosen, chooseResponse? (responses.map givenInPlace) = some chosen ↔
        ∃ key response,
          IsPreferredOf (fun entry => StatusCode.IsSuccessKey entry.1) responses (key, response) ∧
            chosen = ⟨.ofKey key, response.description, responseBody? response.content⟩) ∧
    (∀ content : Content,
      (responseBody? content = none ↔ content = []) ∧
      ∀ body, responseBody? content = some body ↔
        ∃ mime media,
          IsPreferredOf (fun entry => MediaKind.IsOfKind entry.1 .json) content (mime, media) ∧
            body = ⟨mime, true, media.schema⟩) ∧
    ∀ chosen : Representation, MediaKind.IsOfKind chosen.mime chosen.kind := by
  refine ⟨fun body => ⟨chooseRequest?_eq_none_iff, fun chosen => chooseRequest?_eq_some_iff, ?_⟩,
    fun responses => ⟨chooseResponse?_eq_none_iff, fun chosen => chooseResponse?_eq_some_iff⟩,
    fun content => ⟨responseBody?_eq_none_iff, fun body => responseBody?_eq_some_iff⟩,
    isOfKind_kind⟩
  intro other hperm
  exact kind_chooseRequest?_of_perm hperm

/-- A media type with blanks, capitals, a suffix and parameters. -/
def problemType : String := " Application/Problem+JSON ; charset=utf-8"

/-- Two representations that are no JSON. -/
def plainContent : Content := [("text/plain", {}), ("Multipart/Form-Data; boundary=x", {})]

/-- Two representations that are. -/
def jsonContent : Content := [(problemType, {}), ("application/json", {})]

/-- All of them. -/
def problemContent : Content := plainContent ++ jsonContent

/-- The first that is JSON is used for a request, in whatever order they come, and for the
response that is a success in spite of the blanks and the capital in its key. -/
theorem negotiation_of_problemContent :
    MediaKind.IsOfKind problemType .json ∧
      chooseRequest? { content := problemContent } = some ⟨problemType, false, none⟩ ∧
      (∀ other : RequestBody, other.content.Perm problemContent →
        (chooseRequest? other).map Representation.kind = some .json) ∧
      chooseResponse? ([("404", {}), (" 2xX ", { content := problemContent })].map givenInPlace) =
        some ⟨.range 2, none, some ⟨problemType, true, none⟩⟩ := by
  obtain ⟨hrequests, hresponses, hbodies, _⟩ := negotiation
  have hjson : MediaKind.IsOfKind problemType .json := by
    refine .declared ⟨" Application/Problem+JSON ".toList,
      ⟨by decide, .inr ⟨" charset=utf-8".toList, by decide⟩⟩,
      "Application/Problem".toList ++ "+JSON".toList,
      ⟨[' '], [' '], by decide, List.all_eq_true.mp rfl, List.all_eq_true.mp rfl⟩,
      .suffixed (by decide)⟩
  have hbefore : ∀ entry ∈ plainContent, ¬placeOf entry ≤ placeOf (problemType, {}) := by
    decide +kernel
  have hbest : IsFirstOf (IsBest problemContent) problemContent (problemType, {}) := by
    refine ⟨plainContent, _, rfl, isBest_iff.mpr (by decide +kernel), fun entry hentry hbest => ?_⟩
    exact hbefore entry hentry (isBest_iff.mp hbest _ (by simp [problemContent, jsonContent]))
  have hpreferred : IsPreferredOf (fun entry => MediaKind.IsOfKind entry.1 .json) problemContent
      (problemType, {}) := by
    refine .inl ⟨plainContent, _, rfl, hjson, fun entry hentry hkind => hbefore entry hentry ?_⟩
    rw [placeOf, MediaKind.ofMime_eq_iff.mpr hkind]
    exact Nat.zero_le _
  have hchosen := ((hrequests { content := problemContent }).2.1 _).mpr ⟨_, _, hbest, rfl⟩
  have hbody := ((hbodies problemContent).2 _).mpr ⟨_, _, hpreferred, rfl⟩
  have hsuccess : StatusCode.IsSuccessKey " 2xX " :=
    ⟨['2', 'x', 'X'], ⟨[' '], [' '], by decide, List.all_eq_true.mp rfl, List.all_eq_true.mp rfl⟩,
      .range (.inl rfl) (.inr rfl)⟩
  have hmissing : ¬StatusCode.IsSuccessKey "404" := by
    rw [← StatusCode.isSuccess_ofKey_iff]
    decide +kernel
  refine ⟨hjson, hchosen, fun other hperm => ?_, ?_⟩
  · rw [(hrequests { content := problemContent }).2.2 other hperm, hchosen]
    exact congrArg some (MediaKind.ofMime_eq_iff.mpr hjson)
  · refine ((hresponses _).2 _).mpr ⟨" 2xX ", { content := problemContent },
      .inl ⟨[("404", {})], [], rfl, hsuccess, ?_⟩, ?_⟩
    · simpa using hmissing
    · rw [hbody]
      have hkey : StatusCode.ofKey " 2xX " = .range 2 := by decide +kernel
      rw [hkey]

end ClientGen
