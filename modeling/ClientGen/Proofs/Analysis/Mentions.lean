import ClientGen.Analysis.Basic
import ClientGen.Proofs.Analysis.Parameters
import ClientGen.Proofs.Model.Build
import ClientGen.Proofs.Model.Composition
import ClientGen.Proofs.Model.Reachability
import ClientGen.Proofs.Model.Typing

/-!
# The keys that operations and models mention

The types of an operation come from the schemas its endpoint uses, and the types of
a model from the parts of its definition.  Discovery starts from the one and goes
through the other, so whatever a type mentions is something discovery meets.

* `Endpoint.uses_of_mentions`: a key in the signature of an operation is one that a
  schema of the endpoint leads to;
* `Schemas.reachable_of_mentions`: a key in a model can be reached from the key of the
  model.
-/

namespace ClientGen

open Relation

/-! ### Parameters -/

namespace ParameterPair

/-- A key in the type on either side of a pair. -/
def Mentions (p : ParameterPair) (key : String) : Prop :=
  key ∈ p.interface.type.keys ∨ key ∈ p.caller.type.keys

/-- Both sides of a pair have the keys of the type it is for. -/
theorem Sends.mentions_iff {pair : ParameterPair} {wireName : String} {placement : Placement}
    {type : TypeDesc} {required : Bool} {description : Option String} {key : String}
    (h : pair.Sends wireName placement type required description) :
    pair.Mentions key ↔ key ∈ type.keys := by
  rw [Mentions, h.type_eq, h.callerType_eq, TypeDesc.keys_orNullIf, or_self]

end ParameterPair

/-- A key in the signature of an operation. -/
inductive AnalyzedOperation.Mentions (op : AnalyzedOperation) : String → Prop
  | parameter {p : ParameterPair} {key : String} (hp : p ∈ op.parameters)
      (hkey : p.Mentions key) : Mentions op key
  | returns {type : TypeDesc} {key : String} (htype : op.returns = .json type)
      (hkey : key ∈ type.keys) : Mentions op key

namespace Endpoint

variable {schemas : Schemas} {e : Endpoint} {key : String}

/-- What the pair for a declared parameter mentions. -/
theorem uses_of_forParameter {p : Parameter} {pair : ParameterPair} (hp : p ∈ e.parameters)
    (h : ForParameter schemas p pair) (hkey : pair.Mentions key) :
    ∃ s, e.Uses schemas s ∧ schemas.LeadsTo s key := by
  obtain ⟨t, ht, hsends⟩ := h
  obtain ⟨entry, hentry, hitem⟩ := List.mem_filterMap.mp hp
  rw [OrRef.item?_eq_some_iff.mp hitem] at hentry
  obtain ⟨s, hs, hlead⟩ := Schemas.leadsTo_of_mem_keys? ht (hsends.mentions_iff.mp hkey)
  exact ⟨s, .parameter hentry hs, hlead⟩

/-- What the pairs for the request body mention. -/
theorem uses_of_forBody {pairs : List ParameterPair} {pair : ParameterPair}
    (h : e.ForBody schemas pairs) (hpair : pair ∈ pairs) (hkey : pair.Mentions key) :
    ∃ s, e.Uses schemas s ∧ schemas.LeadsTo s key := by
  cases h with
  | whole hr hflavor ht hsends =>
      rw [List.mem_singleton.mp hpair] at hkey
      obtain ⟨s, hs, hlead⟩ := Schemas.leadsTo_of_mem_keys? ht (hsends.mentions_iff.mp hkey)
      exact ⟨s, .body hr hs (.inl hflavor), hlead⟩
  | form hr hform hs hflat hpairs =>
      obtain ⟨p, hp, t, ht, hsends⟩ := exists_of_mem_forall₂ hpairs hpair
      have hlead := Schemas.leadsTo_of_mem_keys ht (hsends.mentions_iff.mp hkey)
      exact ⟨p.schema, .field hr hs hform.isForm hflat hp, hlead⟩
  | missing | unsupported | empty => cases hpair

/-- The body of a response is one of its representations. -/
theorem mem_of_responseBody? {content : Content} {body : Representation}
    (h : responseBody? content = some body) :
    ∃ media, (body.mime, media) ∈ content ∧ body.schema = media.schema := by
  obtain ⟨⟨mime, media⟩, hentry, rfl⟩ := Option.map_eq_some_iff.mp h
  refine ⟨media, ?_, rfl⟩
  rcases Option.or_eq_some_iff.mp hentry with hfound | ⟨_, hfirst⟩
  · exact List.mem_of_find?_eq_some hfound
  · exact List.mem_of_head? hfirst

/-- The response an operation is generated for is one of those declared in place. -/
theorem mem_of_chooseResponse? {responses : List (String × OrRef Response)}
    {chosen : ChosenResponse} (h : chooseResponse? responses = some chosen) :
    ∃ status r, (status, .inline r) ∈ responses ∧ chosen.body = responseBody? r.content := by
  obtain ⟨⟨status, entry⟩, hentry, h⟩ := Option.bind_eq_some_iff.mp h
  obtain ⟨r, hr, h⟩ := Option.bind_eq_some_iff.mp h
  cases h
  refine ⟨status, r, ?_, rfl⟩
  rw [← OrRef.item?_eq_some_iff.mp hr]
  rcases Option.or_eq_some_iff.mp hentry with hfound | ⟨_, hfirst⟩
  · exact List.mem_of_find?_eq_some hfound
  · exact List.mem_of_head? hfirst

/-- A type that is returned is that of the body of a response. -/
theorem exists_body_of_returns {type : TypeDesc} (h : e.returns schemas = .json type) :
    ∃ body, e.response?.bind (·.body) = some body ∧ body.kind = .json ∧
      schemas.typeOf? body.schema = .ok type := by
  rw [returns] at h
  split at h
  · cases h
  next body hbody =>
    split at h
    next hjson =>
      split at h
      next t ht =>
        cases h
        exact ⟨body, hbody, hjson, ht⟩
      · cases h
    · cases h

/-- What the type of the response mentions. -/
theorem uses_of_mem_returns {type : TypeDesc} (h : e.returns schemas = .json type)
    (hkey : key ∈ type.keys) : ∃ s, e.Uses schemas s ∧ schemas.LeadsTo s key := by
  obtain ⟨body, hbody, hjson, htype⟩ := exists_body_of_returns h
  obtain ⟨chosen, hchosen, hbody⟩ := Option.bind_eq_some_iff.mp hbody
  obtain ⟨status, r, hr, hcontent⟩ := mem_of_chooseResponse? hchosen
  obtain ⟨media, hmedia, hschema⟩ := mem_of_responseBody? (hcontent ▸ hbody)
  obtain ⟨s, hs, hlead⟩ := Schemas.leadsTo_of_mem_keys? htype hkey
  exact ⟨s, .response hr hmedia hjson (hschema ▸ hs), hlead⟩

/-- **Keys of operations.**  What an operation mentions, a schema of its endpoint leads
to. -/
theorem uses_of_mentions {op : AnalyzedOperation} (h : e.analyze schemas = .ok op)
    (hkey : op.Mentions key) : ∃ s, e.Uses schemas s ∧ schemas.LeadsTo s key := by
  obtain ⟨pairs, hpairs, rfl⟩ := map_eq_ok_iff.mp h
  cases hkey with
  | parameter hp hkey =>
      obtain ⟨_, declared, body, rfl, hdeclared, hbody, _⟩ := forEndpoint_of_pairs hpairs
      rcases List.mem_append.mp hp with hp | hp
      · obtain ⟨p, hparameter, hfor⟩ := exists_of_mem_forall₂ hdeclared hp
        exact uses_of_forParameter hparameter hfor hkey
      · exact uses_of_forBody hbody hp hkey
  | returns htype hkey => exact uses_of_mem_returns htype hkey

end Endpoint

/-! ### Models -/

/-- A key in the type of a property, or in the target of another name. -/
inductive Model.Mentions : Model → String → Prop
  | property {m : ObjectModel} {p : ModelProperty} {key : String} (hp : p ∈ m.properties)
      (hkey : key ∈ p.type.keys) : Mentions (.object m) key
  | target {m : AliasModel} {key : String} (hkey : key ∈ m.target.keys) :
      Mentions (.typeAlias m) key

namespace Schemas

variable {schemas : Schemas} {key other : String}

/-- What the class of a definition mentions can be reached from its key. -/
theorem reachable_of_mem_objectModel {s : Schema} {m : ObjectModel} {p : ModelProperty}
    (hs : schemas.lookup key = some (.inline s)) (h : schemas.objectModel key s = .ok m)
    (hp : p ∈ m.properties) (hother : other ∈ p.type.keys) :
    ReflTransGen schemas.DependsOn key other := by
  obtain ⟨flat, properties, hflat, hproperties, rfl⟩ := objectModel_eq_ok_iff.mp h
  obtain ⟨q, hq, hproperty⟩ := exists_of_mem_mapM hproperties hp
  obtain ⟨t, ht, rfl⟩ := modelProperty_eq_ok_iff.mp hproperty
  rw [TypeDesc.keys_orNullIf] at hother
  obtain ⟨part, hpart, hdeclared⟩ := exists_part_of_mem_flatten hflat hq
  have hholds : schemas.Holds {k | ReflTransGen schemas.DependsOn key k} (.inline s) :=
    fun t k ht hlead => .single ⟨_, t, hs, ht, hlead⟩
  exact hpart.closed hholds (fun k hk k' hdepends => .tail hk hdepends) hdeclared
    (leadsTo_of_mem_keys ht hother)

/-- What the target of another name mentions can be reached from its key. -/
theorem reachable_of_mem_aliasModel {s : OrRef Schema} {m : AliasModel}
    (hs : schemas.lookup key = some s) (h : schemas.aliasModel key s = .ok m)
    (hother : other ∈ m.target.keys) : ReflTransGen schemas.DependsOn key other := by
  obtain ⟨target, htarget, rfl⟩ := aliasModel_eq_ok_iff.mp h
  obtain ⟨t, ht, hlead⟩ := (leadsTo_of_mem_keys htarget hother).exists_part
  exact .single ⟨s, t, hs, ht, hlead⟩

/-- **Keys of models.**  What a model mentions can be reached from its key. -/
theorem reachable_of_mentions {m : Model} (h : schemas.model key = .ok m)
    (hother : m.Mentions other) : ReflTransGen schemas.DependsOn key other := by
  obtain ⟨s, hs, hbuilds⟩ := builds_of_model h
  cases hbuilds with
  | object _ hm =>
      cases hother with
      | property hp hkey => exact reachable_of_mem_objectModel hs hm hp hkey
  | enumeration => cases hother
  | typeAlias _ _ _ hm =>
      cases hother with
      | target hkey => exact reachable_of_mem_aliasModel hs hm hkey

end Schemas

end ClientGen
