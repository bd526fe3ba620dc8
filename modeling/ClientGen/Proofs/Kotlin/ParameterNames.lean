import ClientGen.Proofs.Analysis.Parameters
import ClientGen.Proofs.Kotlin.Identifiers
import ClientGen.Proofs.Naming

/-!
# The names of the parameters of a function

A parameter is named by the words of what it is sent under, with a number if another one
has these words.  Words and numbers hold letters, digits and characters beyond ASCII only,
so nothing in such a name is replaced when it is escaped: different names stay different
identifiers.

* `isWord_numbered`: a number behind words;
* `escapeIdentifier_injective_of_isWord`: words as identifiers;
* `pairs_lose_nothing`: all parameters of an endpoint.
-/

namespace ClientGen.Kotlin

open Naming (IsWord isWord_camel camel_ne_empty)
open Text (IsWordChar)

variable {schemas : Schemas} {e : Endpoint} {name : String}

/-! ### Words as identifiers -/

/-- The characters that no identifier may hold, not even between backticks. -/
def unreadableChars : List Char := forbiddenChars ++ lineBreaks

/-- Characters of words can be read between backticks. -/
theorem not_unreadable_of_isWordChar {c : Char} (h : IsWordChar c) : c ∉ unreadableChars := by
  have hall : ∀ d ∈ unreadableChars, ¬IsWordChar d := by
    unfold IsWordChar
    simp [unreadableChars, forbiddenChars, lineBreaks]
  exact fun hc => hall c hc h

theorem not_forbidden_of_isWordChar {c : Char} (h : IsWordChar c) : c ∉ forbiddenChars :=
  fun hc => not_unreadable_of_isWordChar h (List.mem_append_left _ hc)

/-- Words become an identifier. -/
theorem isIdentifier_of_isWord (h : IsWord name.toList) :
    IsIdentifier unreadableChars (escapeIdentifier name) := by
  refine isIdentifier_escapeIdentifier (by decide) fun c hc hunreadable => ?_
  exact absurd hunreadable (not_unreadable_of_isWordChar (h c hc))

/-- Different words become different identifiers. -/
theorem escapeIdentifier_injective_of_isWord {other : String} (hne : name ≠ "")
    (hother : other ≠ "") (hname : IsWord name.toList) (hotherName : IsWord other.toList)
    (h : escapeIdentifier name = escapeIdentifier other) : name = other :=
  escapeIdentifier_injective hne hother
    (fun c hc => not_forbidden_of_isWordChar (hname c hc))
    (fun c hc => not_forbidden_of_isWordChar (hotherName c hc)) h

/-- Digits behind words change nothing about their characters. -/
theorem isWord_of_hasDigitsBehind {result : String} (hname : IsWord name.toList)
    (h : HasDigitsBehind name result) : IsWord result.toList := by
  obtain ⟨digits, hdigits, hchars⟩ := h
  intro c hc
  rw [hchars] at hc
  rcases List.mem_append.mp hc with hc | hc
  · exact hname c hc
  · exact .inl (by rw [Char.isAlphanum, hdigits c hc, Bool.or_true])

/-- Digits behind a name leave it a name. -/
theorem ne_empty_of_hasDigitsBehind {result : String} (hname : name ≠ "")
    (h : HasDigitsBehind name result) : result ≠ "" := by
  obtain ⟨digits, _, hchars⟩ := h
  intro hempty
  rw [hempty] at hchars
  exact hname (String.toList_inj.mp (List.append_eq_nil_iff.mp hchars.symm).1)

/-! ### The names of pairs -/

/-- A pair is named by words. -/
theorem isWord_of_sends {pair : ParameterPair} {wireName : String} {placement : Placement}
    {type : TypeDesc} {required : Bool} {description : Option String}
    (h : pair.Sends wireName placement type required description) :
    pair.interface.name ≠ "" ∧ IsWord pair.interface.name.toList :=
  ⟨ne_empty_of_hasDigitsBehind (camel_ne_empty wireName) h.name,
    isWord_of_hasDigitsBehind (isWord_camel wireName) h.name⟩

/-- Names of words that differ become identifiers that differ. -/
theorem nodup_escapeIdentifier {names : List String} (hnodup : names.Nodup)
    (hwords : ∀ name ∈ names, name ≠ "" ∧ IsWord name.toList) :
    (names.map escapeIdentifier).Nodup := by
  refine hnodup.map_on fun name hname other hother h => ?_
  obtain ⟨hne, hword⟩ := hwords name hname
  obtain ⟨hotherNe, hotherWord⟩ := hwords other hother
  exact escapeIdentifier_injective_of_isWord hne hotherNe hword hotherWord h

/-- **Parameters.**  If the parameters of an endpoint can be classified, all of them and the
request body are given in place.  The pairs are those for the declared parameters in their
order and behind them those for the request body, each for what is sent in its place.  A
pair has one name on both sides, no two pairs have the same, and the names become different
identifiers.  Where a reference is left, it is reported as a failure. -/
theorem pairs_lose_nothing (schemas : Schemas) (e : Endpoint) :
    (∀ pairs, e.pairs schemas = .ok pairs → ∃ params declared body,
      e.operation.parameters = params.map .inline ∧
      (∀ path, e.operation.requestBody ≠ some (.ref path)) ∧
      pairs = declared ++ body ∧
      List.Forall₂ (Endpoint.ForParameter schemas) params declared ∧
      e.ForBody schemas body ∧
      (pairs.map (·.interface.name)).Nodup ∧
      (pairs.map fun p => escapeIdentifier p.interface.name).Nodup ∧
      ∀ p ∈ pairs, p.caller.name = p.interface.name ∧
        IsIdentifier unreadableChars (escapeIdentifier p.interface.name)) ∧
    ((∃ path, .ref path ∈ e.operation.parameters ∨ e.operation.requestBody = some (.ref path)) →
      ∃ left, (.ref left ∈ e.operation.parameters ∧ e.pairs schemas =
          .error (.parameter e.method e.path left (.unresolved left))) ∨
        (e.operation.requestBody = some (.ref left) ∧ e.pairs schemas =
          .error (.requestBody e.method e.path (.unresolved left)))) := by
  constructor
  · intro pairs h
    obtain ⟨hleft, declared, body, hpairs, hdeclared, hbody, hnodup⟩ :=
      Endpoint.forEndpoint_of_pairs h
    obtain ⟨hparameters, hinline⟩ := Endpoint.leftReference?_eq_none_iff.mp hleft
    have hsends : ∀ p ∈ pairs, ∃ wireName placement type required description,
        p.Sends wireName placement type required description := by
      intro p hp
      rw [hpairs] at hp
      exact Endpoint.exists_sends_of_mem hdeclared hbody hp
    have hwords : ∀ name ∈ pairs.map (·.interface.name), name ≠ "" ∧ IsWord name.toList := by
      intro name hname
      obtain ⟨p, hp, rfl⟩ := List.mem_map.mp hname
      obtain ⟨_, _, _, _, _, hp⟩ := hsends p hp
      exact isWord_of_sends hp
    have hescaped := nodup_escapeIdentifier hnodup hwords
    rw [List.map_map] at hescaped
    refine ⟨e.parameters, declared, body, hparameters, hinline, hpairs, hdeclared, hbody, hnodup,
      hescaped, fun p hp => ?_⟩
    obtain ⟨_, _, _, _, _, hp⟩ := hsends p hp
    exact ⟨hp.callerName_eq, isIdentifier_of_isWord (isWord_of_sends hp).2⟩
  · rintro ⟨path, hpath⟩
    cases hleft : e.leftReference? with
    | some failure =>
        rw [Endpoint.pairs_of_leftReference? hleft]
        obtain ⟨left, ⟨hmem, rfl⟩ | ⟨hbody, rfl⟩⟩ := Endpoint.leftReference?_eq_some hleft
        · exact ⟨left, .inl ⟨hmem, rfl⟩⟩
        · exact ⟨left, .inr ⟨hbody, rfl⟩⟩
    | none =>
        obtain ⟨hparameters, hinline⟩ := Endpoint.leftReference?_eq_none_iff.mp hleft
        rcases hpath with hmem | hbody
        · rw [hparameters] at hmem
          obtain ⟨_, _, h⟩ := List.mem_map.mp hmem
          cases h
        · exact absurd hbody (hinline path)

end ClientGen.Kotlin
