import ClientGen.Proofs.Analysis.Parameters

/-!
# Where the parameters of a request body are sent

The content chosen for a request settles a flavor, and the flavor settles where what it
yields is sent: a whole body is one parameter, a form is one part or one field for each
property, and all else is nothing.  Declared parameters are sent in other places, so all
parameters in these places are those of the request body.

* `PlacedAs`, `placedAs_of_forBody`: the parameters of a request body;
* `exists_placedAs_of_analyze`: no other parameters are sent where they are;
* `FitsFlavor`, `fitsFlavor_of_analyze`: how many there are in each place.
-/

namespace ClientGen

variable {schemas : Schemas} {e : Endpoint} {op : AnalyzedOperation}

/-- The places in which the parameters of a request body are sent. -/
def bodyPlacements : List Placement := [.body, .part, .field]

/-- Declared parameters are sent in other places. -/
theorem placement_not_mem_bodyPlacements (location : Location) :
    location.placement ∉ bodyPlacements := by
  cases location <;> decide

/-! ### Placements of a flavor -/

/-- What a request body of a flavor, or none, yields is sent in some places, in this order. -/
inductive PlacedAs : Option BodyFlavor → List Placement → Prop
  | missing : PlacedAs none []
  | unsupported : PlacedAs (some .unsupported) []
  | whole : PlacedAs (some .whole) [.body]
  | form {flavor : BodyFlavor} {placement : Placement}
      (h : Endpoint.FormPlacement flavor placement) (fields : Nat) :
      PlacedAs (some flavor) (List.replicate fields placement)

/-- The fields of a form are all sent alike. -/
theorem placements_of_forall₂ {placement : Placement} {properties : List FlatProperty}
    {pairs : List ParameterPair}
    (h : List.Forall₂ (Endpoint.ForField schemas placement) properties pairs) :
    pairs.map (·.interface.placement) = List.replicate pairs.length placement := by
  apply List.eq_replicate_iff.mpr
  constructor
  · exact List.length_map _
  · intro p hp
    obtain ⟨pair, hpair, rfl⟩ := List.mem_map.mp hp
    obtain ⟨_, _, _, _, hsends⟩ := exists_of_mem_forall₂ h hpair
    exact hsends.placement_eq

/-- **Request bodies.**  What a request body yields is placed by its flavor. -/
theorem placedAs_of_forBody {pairs : List ParameterPair} (h : e.ForBody schemas pairs) :
    PlacedAs e.flavor? (pairs.map (·.interface.placement)) := by
  have hflavor {r : Representation} (hr : e.request? = some r) :
      e.flavor? = some r.kind.flavor := by
    rw [Endpoint.flavor?, hr]
    rfl
  cases h with
  | missing hr =>
      rw [Endpoint.flavor?, hr]
      exact .missing
  | unsupported hr hkind =>
      rw [hflavor hr, hkind]
      exact .unsupported
  | whole hr hkind ht hpair =>
      rw [hflavor hr, hkind, List.map_singleton, hpair.placement_eq]
      exact .whole
  | empty hr hform hs =>
      rw [hflavor hr]
      exact .form hform 0
  | form hr hform hs hflat hpairs =>
      rw [hflavor hr, placements_of_forall₂ hpairs]
      exact .form hform _

/-! ### The parameters of an operation -/

/-- How many parameters of an operation are sent in a place. -/
def AnalyzedOperation.countAt (op : AnalyzedOperation) (placement : Placement) : Nat :=
  (op.parameters.map (·.interface.placement)).count placement

/-- Something is counted at a placement exactly if a parameter is sent there. -/
theorem countAt_pos_iff {p : Placement} :
    0 < op.countAt p ↔ ∃ pair ∈ op.parameters, pair.interface.placement = p := by
  rw [AnalyzedOperation.countAt, List.count_pos_iff, List.mem_map]

/-- The request body yields a parameter. -/
def AnalyzedOperation.SendsBody (op : AnalyzedOperation) : Prop :=
  ∃ pair ∈ op.parameters, pair.interface.placement ∈ bodyPlacements

/-- A body is sent exactly if something is counted at one of its placements. -/
theorem sendsBody_iff :
    op.SendsBody ↔ 0 < op.countAt .body ∨ 0 < op.countAt .part ∨ 0 < op.countAt .field := by
  simp only [AnalyzedOperation.SendsBody, bodyPlacements, countAt_pos_iff, List.mem_cons,
    List.not_mem_nil, or_false, and_or_left, exists_or]

/-- Where parameters of a request body are sent, no declared ones are. -/
theorem exists_placedAs_of_analyze (h : e.analyze schemas = .ok op) :
    ∃ placements, PlacedAs op.flavor placements ∧
      ∀ p ∈ bodyPlacements, op.countAt p = placements.count p := by
  have hflavor : op.flavor = e.flavor? := by
    obtain ⟨pairs, _, rfl⟩ := map_eq_ok_iff.mp h
    rfl
  obtain ⟨_, declared, body, hparameters, hdeclared, hbody, _⟩ :=
    Endpoint.forEndpoint_of_pairs (Endpoint.pairs_of_analyze h)
  refine ⟨body.map (·.interface.placement), hflavor ▸ placedAs_of_forBody hbody, ?_⟩
  intro p hp
  have hnone : (declared.map (·.interface.placement)).count p = 0 := by
    apply List.count_eq_zero_of_not_mem
    intro hmem
    obtain ⟨pair, hpair, rfl⟩ := List.mem_map.mp hmem
    obtain ⟨parameter, _, _, _, hsends⟩ := exists_of_mem_forall₂ hdeclared hpair
    rw [hsends.placement_eq] at hp
    exact placement_not_mem_bodyPlacements _ hp
  rw [AnalyzedOperation.countAt, hparameters, List.map_append, List.count_append, hnone,
    Nat.zero_add]

/-- Numbers of parameters in the places of a request body that fit its flavor: a whole body
is one parameter, a form has parts only or fields only, and otherwise there are none. -/
def FitsFlavor (count : Placement → Nat) : Option BodyFlavor → Prop
  | some .whole => count .body = 1 ∧ count .part = 0 ∧ count .field = 0
  | some .multipart => count .body = 0 ∧ count .field = 0
  | some .urlEncoded => count .body = 0 ∧ count .part = 0
  | some .unsupported => count .body = 0 ∧ count .part = 0 ∧ count .field = 0
  | none => count .body = 0 ∧ count .part = 0 ∧ count .field = 0

namespace FitsFlavor

variable {count : Placement → Nat} {flavor : Option BodyFlavor}

/-- Parts come from multipart bodies only. -/
theorem flavor_of_part (h : FitsFlavor count flavor) (hpart : 0 < count .part) :
    flavor = some .multipart := by
  have hsome : count .part ≠ 0 := Nat.ne_of_gt hpart
  cases flavor with
  | none => exact absurd h.2.1 hsome
  | some kind =>
      cases kind with
      | multipart => rfl
      | urlEncoded => exact absurd h.2 hsome
      | whole | unsupported => exact absurd h.2.1 hsome

/-- Fields come from url-encoded bodies only. -/
theorem flavor_of_field (h : FitsFlavor count flavor) (hfield : 0 < count .field) :
    flavor = some .urlEncoded := by
  have hsome : count .field ≠ 0 := Nat.ne_of_gt hfield
  cases flavor with
  | none => exact absurd h.2.2 hsome
  | some kind =>
      cases kind with
      | urlEncoded => rfl
      | multipart => exact absurd h.2 hsome
      | whole | unsupported => exact absurd h.2.2 hsome

/-- There is one whole body at most, and then no form. -/
theorem alone (h : FitsFlavor count flavor) :
    count .body ≤ 1 ∧ (count .body = 0 ∨ count .part = 0) ∧
      (count .body = 0 ∨ count .field = 0) ∧ (count .part = 0 ∨ count .field = 0) := by
  rcases flavor with _ | _ | _ | _ | _ <;> simp only [FitsFlavor] at h <;> omega

end FitsFlavor

/-- **Flavor and places.**  The parameters of an operation fit the flavor of its request
body. -/
theorem fitsFlavor_of_analyze (h : e.analyze schemas = .ok op) :
    FitsFlavor op.countAt op.flavor := by
  obtain ⟨placements, hplaced, hcount⟩ := exists_placedAs_of_analyze h
  have hbody := hcount .body (by decide)
  have hpart := hcount .part (by decide)
  have hfield := hcount .field (by decide)
  generalize op.flavor = flavor at hplaced ⊢
  cases hplaced with
  | missing => exact ⟨hbody, hpart, hfield⟩
  | unsupported => exact ⟨hbody, hpart, hfield⟩
  | whole => exact ⟨hbody, hpart, hfield⟩
  | form hform fields =>
      rw [List.count_replicate] at hbody hpart hfield
      cases hform with
      | part => exact ⟨hbody, hfield⟩
      | field => exact ⟨hbody, hpart⟩

end ClientGen
