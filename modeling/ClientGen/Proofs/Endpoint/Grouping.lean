import ClientGen.Proofs.Analysis.Selection
import Mathlib.Data.List.Nodup

/-!
# Endpoints in the groups of their tags

Groups are put together in one pass over the endpoints, which adds a position under each tag
of an endpoint and opens a group for a tag that is new.  The pass is one over **taggings**,
the pairs of a tag and a position in the order in which they come up, and what it has built
at any point is told by the taggings it has gone through: a group for each tag, where the tag
first comes, with the positions that the tag is paired with.

* `foldl_addMember`: the groups of some taggings;
* `positionsOf_taggings`: the positions under a tag, if no endpoint repeats a tag;
* `groupByTag_covers`: the groups of some endpoints.
-/

namespace ClientGen

variable {tag : String} {i : Nat} {e : Endpoint} {endpoints : List Endpoint}

/-- An endpoint is grouped under each of its tags, and without tags under `default`. -/
def Endpoint.IsUnder (e : Endpoint) (tag : String) : Prop :=
  tag ∈ e.tags ∨ (e.tags = [] ∧ tag = "default")

/-- An endpoint is grouped by the tags it is under. -/
theorem Endpoint.mem_groupTags_iff : tag ∈ e.groupTags ↔ e.IsUnder tag := by
  rw [groupTags, IsUnder]
  cases htags : e.tags with
  | nil => simp [untagged]
  | cons first rest => simp

/-- It is grouped once by each if it has each tag once. -/
theorem Endpoint.nodup_groupTags (h : e.tags.Nodup) : e.groupTags.Nodup := by
  rw [groupTags]
  split
  · exact List.nodup_singleton _
  · exact h

/-- The endpoints of a document are made of its operations. -/
theorem Endpoint.exists_eq_ofOperation {d : Document} (h : e ∈ ofDocument d) :
    ∃ path inherited method op, e = ofOperation d path inherited method op := by
  obtain ⟨⟨path, item⟩, _, he⟩ := List.mem_flatMap.mp h
  obtain ⟨⟨method, op⟩, _, rfl⟩ := List.mem_map.mp he
  exact ⟨path, item.parameters, method, op, rfl⟩

/-! ### Taggings -/

/-- The tags of some endpoints with the positions of the endpoints, counted from `i` on. -/
def taggings (i : Nat) (endpoints : List Endpoint) : List (String × Nat) :=
  (endpoints.zipIdx i).flatMap fun x => x.1.groupTags.map fun tag => (tag, x.2)

/-- The positions that a tag is paired with. -/
def positionsOf (entries : List (String × Nat)) (tag : String) : List Nat :=
  (entries.filter fun entry => entry.1 = tag).map (·.2)

/-- The taggings of the first endpoint come in front. -/
theorem taggings_cons (i : Nat) (e : Endpoint) (rest : List Endpoint) :
    taggings i (e :: rest) = e.groupTags.map (fun tag => (tag, i)) ++ taggings (i + 1) rest := by
  simp [taggings]

/-- The taggings of the last endpoint come behind the others. -/
theorem taggings_concat (i : Nat) (endpoints : List Endpoint) (e : Endpoint) :
    taggings i (endpoints ++ [e]) =
      taggings i endpoints ++ e.groupTags.map fun tag => (tag, i + endpoints.length) := by
  simp [taggings, List.zipIdx_append]

/-- Without positions the taggings are the tags of the endpoints. -/
theorem map_fst_taggings (i : Nat) (endpoints : List Endpoint) :
    (taggings i endpoints).map (·.1) = endpoints.flatMap Endpoint.groupTags := by
  induction endpoints generalizing i with
  | nil => rfl
  | cons e rest ih =>
      rw [taggings_cons, List.map_append, ih, List.flatMap_cons, List.map_map]
      congr 1
      exact List.map_id _

/-- Grouping is a pass over the taggings. -/
theorem groupFrom_eq_foldl (i : Nat) (groups : List (String × List Nat))
    (endpoints : List Endpoint) :
    groupFrom i groups endpoints =
      (taggings i endpoints).foldl (fun g entry => addMember entry.1 entry.2 g) groups := by
  induction endpoints generalizing i groups with
  | nil => rfl
  | cons e rest ih => rw [groupFrom, ih, taggings_cons, List.foldl_append, List.foldl_map]

/-! ### The groups of taggings -/

section Groups

variable {tags : List String} {members : String → List Nat}

/-- A tag that is new opens a group at the end. -/
theorem addMember_of_not_mem (h : tag ∉ tags) :
    addMember tag i (tags.map fun t => (t, members t)) =
      (tags.map fun t => (t, members t)) ++ [(tag, [i])] := by
  induction tags with
  | nil => rfl
  | cons t rest ih =>
      have hne : t ≠ tag := fun heq => h (heq ▸ List.mem_cons_self)
      have hrest : tag ∉ rest := fun hmem => h (List.mem_cons_of_mem _ hmem)
      rw [List.map_cons, addMember, if_neg hne, ih hrest, List.cons_append]

/-- A tag that has a group gets one more position there. -/
theorem addMember_of_mem (hnodup : tags.Nodup) (h : tag ∈ tags) :
    addMember tag i (tags.map fun t => (t, members t)) =
      tags.map fun t => (t, members t ++ if t = tag then [i] else []) := by
  induction tags with
  | nil => cases h
  | cons t rest ih =>
      obtain ⟨hfresh, hrest⟩ := List.nodup_cons.mp hnodup
      rw [List.map_cons, List.map_cons, addMember]
      by_cases ht : t = tag
      · -- The other groups are those of other tags.
        have hothers : rest.map (fun t => (t, members t ++ if t = tag then [i] else [])) =
            rest.map fun t => (t, members t) := by
          refine List.map_congr_left fun u hu => ?_
          have hne : u ≠ tag := fun heq => hfresh (ht ▸ heq ▸ hu)
          rw [if_neg hne, List.append_nil]
        rw [if_pos ht, if_pos ht, hothers]
      · have hmem : tag ∈ rest := (List.mem_cons.mp h).resolve_left (Ne.symm ht)
        rw [if_neg ht, if_neg ht, List.append_nil, ih hrest hmem]

end Groups

/-- The positions under a tag come in the order of the taggings. -/
theorem positionsOf_append (front back : List (String × Nat)) (t : String) :
    positionsOf (front ++ back) t = positionsOf front t ++ positionsOf back t := by
  rw [positionsOf, List.filter_append, List.map_append, positionsOf, positionsOf]

/-- One tagging has one position under its own tag. -/
theorem positionsOf_singleton (entry : String × Nat) (t : String) :
    positionsOf [entry] t = if t = entry.1 then [entry.2] else [] := by
  by_cases ht : t = entry.1
  · simp [positionsOf, ht]
  · simp [positionsOf, ht, Ne.symm ht]

/-- A tag that does not occur has no positions. -/
theorem positionsOf_of_not_mem {entries : List (String × Nat)} (h : tag ∉ entries.map (·.1)) :
    positionsOf entries tag = [] := by
  have hnone : entries.filter (fun entry => entry.1 = tag) = [] := by
    refine List.filter_eq_nil_iff.mpr fun entry hentry heq => h ?_
    exact of_decide_eq_true heq ▸ List.mem_map_of_mem hentry
  rw [positionsOf, hnone, List.map_nil]

/-- The group that some taggings give a tag. -/
def groupOf (entries : List (String × Nat)) (tag : String) : String × List Nat :=
  (tag, positionsOf entries tag)

/-- A tagging changes no group but that of its tag. -/
theorem groupOf_concat_of_ne {entries : List (String × Nat)} {entry : String × Nat}
    (h : tag ≠ entry.1) : groupOf (entries ++ [entry]) tag = groupOf entries tag := by
  rw [groupOf, groupOf, positionsOf_append, positionsOf_singleton, if_neg h, List.append_nil]

/-- **The groups of some taggings.**  Each tag has a group where it first comes, with the
positions that it is paired with. -/
theorem foldl_addMember (entries : List (String × Nat)) :
    entries.foldl (fun g entry => addMember entry.1 entry.2 g) [] =
      (entries.map (·.1)).eraseDups.map (groupOf entries) := by
  induction entries using List.reverseRecOn with
  | nil => rfl
  | append_singleton entries entry ih =>
      have hnodup := (firstSeen_eraseDups (entries.map (·.1))).nodup
      rw [List.foldl_append, ih, List.foldl_cons, List.foldl_nil, List.map_append,
        List.map_singleton, eraseDups_concat]
      by_cases hmem : entry.1 ∈ entries.map (·.1)
      · rw [if_pos hmem, List.append_nil]
        refine (addMember_of_mem hnodup (List.mem_eraseDups.mpr hmem)).trans ?_
        refine List.map_congr_left fun t _ => ?_
        rw [groupOf, positionsOf_append, positionsOf_singleton]
      · have hothers : (entries.map (·.1)).eraseDups.map (groupOf (entries ++ [entry])) =
            (entries.map (·.1)).eraseDups.map (groupOf entries) := by
          refine List.map_congr_left fun t ht => groupOf_concat_of_ne fun heq => hmem ?_
          exact heq ▸ List.mem_eraseDups.mp ht
        have hopened : groupOf (entries ++ [entry]) entry.1 = (entry.1, [entry.2]) := by
          rw [groupOf, positionsOf_append, positionsOf_singleton, positionsOf_of_not_mem hmem,
            if_pos rfl, List.nil_append]
        rw [if_neg hmem, List.map_append, hothers, List.map_singleton, hopened]
        exact addMember_of_not_mem (mt List.mem_eraseDups.mp hmem)

/-! ### The positions under a tag -/

/-- There is an endpoint with a tag at a position. -/
def isUnderAt (endpoints : List Endpoint) (tag : String) (i : Nat) : Bool :=
  endpoints[i]?.any fun e => tag ∈ e.groupTags

/-- Being under a tag at a position is a matter of the endpoint there. -/
theorem isUnderAt_iff_of_getElem? (h : endpoints[i]? = some e) :
    isUnderAt endpoints tag i = true ↔ e.IsUnder tag := by
  rw [isUnderAt, h, ← Endpoint.mem_groupTags_iff]
  simp

/-- One endpoint adds its position under each of its tags. -/
theorem positionsOf_map (h : e.tags.Nodup) (tag : String) (i : Nat) :
    positionsOf (e.groupTags.map fun t => (t, i)) tag = if tag ∈ e.groupTags then [i] else [] := by
  have hcount : positionsOf (e.groupTags.map fun t => (t, i)) tag =
      List.replicate (e.groupTags.count tag) i := by
    rw [positionsOf, List.filter_map, List.map_map, List.count_eq_length_filter]
    exact List.map_const'
  rw [hcount]
  by_cases htag : tag ∈ e.groupTags
  · rw [if_pos htag, List.count_eq_one_of_mem (Endpoint.nodup_groupTags h) htag]
    rfl
  · rw [if_neg htag, List.count_eq_zero_of_not_mem htag]
    rfl

/-- **The positions under a tag** are those of the endpoints that have it, in ascending order,
if no endpoint repeats a tag. -/
theorem positionsOf_taggings (h : ∀ e ∈ endpoints, e.tags.Nodup) (tag : String) :
    positionsOf (taggings 0 endpoints) tag =
      (List.range endpoints.length).filter (isUnderAt endpoints tag) := by
  induction endpoints using List.reverseRecOn with
  | nil => rfl
  | append_singleton endpoints e ih =>
      have hlast : isUnderAt (endpoints ++ [e]) tag endpoints.length =
          decide (tag ∈ e.groupTags) := by
        simp [isUnderAt]
      have hearlier : (List.range endpoints.length).filter (isUnderAt (endpoints ++ [e]) tag) =
          (List.range endpoints.length).filter (isUnderAt endpoints tag) := by
        refine List.filter_congr fun i hi => ?_
        rw [isUnderAt, List.getElem?_append_left (List.mem_range.mp hi), isUnderAt]
      rw [taggings_concat, positionsOf_append, ih fun e he => h e (List.mem_append_left _ he),
        positionsOf_map (h e (by simp)), List.length_append, List.length_singleton, List.range_succ,
        List.filter_append, hearlier, Nat.zero_add, List.filter_singleton, hlast]
      by_cases htag : tag ∈ e.groupTags <;> simp [htag]

/-! ### Groups -/

/-- The tags of some endpoints as they come up. -/
def tagsOf (endpoints : List Endpoint) : List String := endpoints.flatMap Endpoint.groupTags

/-- The tags of some endpoints are those that one of them is under. -/
theorem mem_tagsOf_iff : tag ∈ tagsOf endpoints ↔ ∃ e ∈ endpoints, e.IsUnder tag := by
  simp only [tagsOf, List.mem_flatMap, Endpoint.mem_groupTags_iff]

/-- **All groups at once.**  There is one for each tag that is asked for, where the tag first
comes up. -/
theorem groupByTag_eq_map (endpoints : List Endpoint) (allow : List String) :
    groupByTag endpoints allow =
      ((tagsOf endpoints).eraseDups.filter (isAllowed allow)).map fun tag =>
        ⟨.ofText tag, positionsOf (taggings 0 endpoints) tag⟩ := by
  rw [groupByTag, groupFrom_eq_foldl, foldl_addMember, map_fst_taggings, List.filter_map,
    List.map_map]
  rfl

/-- The groups of some endpoints, if those of some tags are asked for. -/
structure IsGrouping (endpoints : List Endpoint) (allow : List String) (groups : List Group) :
    Prop where
  named : ∀ g ∈ groups, g.name = .ofText g.name.text
  /-- No tag that is asked for is left out, and no other has a group. -/
  mem_tags_iff : ∀ tag, tag ∈ groups.map (·.name.text) ↔
    (∃ e ∈ endpoints, e.IsUnder tag) ∧ (allow = [] ∨ tag ∈ allow)
  distinct : (groups.map (·.name.text)).Nodup
  ordered : (groups.map (·.name.text)).Pairwise fun s t =>
    (tagsOf endpoints).idxOf s < (tagsOf endpoints).idxOf t
  once : ∀ g ∈ groups, ∀ i e, endpoints[i]? = some e → e.IsUnder g.name.text →
    g.members.count i = 1
  only : ∀ g ∈ groups, ∀ i e, endpoints[i]? = some e → ¬e.IsUnder g.name.text → i ∉ g.members
  ascending : ∀ g ∈ groups, g.members.Pairwise (· < ·)
  inRange : ∀ g ∈ groups, ∀ i ∈ g.members, i < endpoints.length

/-- The groups that are made are a grouping of the endpoints. -/
theorem isGrouping_groupByTag (h : ∀ e ∈ endpoints, e.tags.Nodup) (allow : List String) :
    IsGrouping endpoints allow (groupByTag endpoints allow) := by
  have htags : (groupByTag endpoints allow).map (·.name.text) =
      (tagsOf endpoints).eraseDups.filter (isAllowed allow) := by
    rw [groupByTag_eq_map, List.map_map]
    exact List.map_id _
  have hfirst := firstSeen_eraseDups (tagsOf endpoints)
  -- What is said of each group is said of the group of a tag.
  have hgroup : ∀ g ∈ groupByTag endpoints allow, g.name = .ofText g.name.text ∧
      g.members = (List.range endpoints.length).filter (isUnderAt endpoints g.name.text) := by
    intro g hg
    rw [groupByTag_eq_map] at hg
    obtain ⟨tag, _, rfl⟩ := List.mem_map.mp hg
    exact ⟨rfl, positionsOf_taggings h tag⟩
  have hascending : ∀ g ∈ groupByTag endpoints allow, g.members.Pairwise (· < ·) := by
    intro g hg
    rw [(hgroup g hg).2]
    exact List.pairwise_lt_range.filter _
  have hmember : ∀ g ∈ groupByTag endpoints allow, ∀ i e, endpoints[i]? = some e →
      (i ∈ g.members ↔ e.IsUnder g.name.text) := by
    intro g hg i e hi
    rw [(hgroup g hg).2, List.mem_filter, List.mem_range, isUnderAt_iff_of_getElem? hi]
    exact and_iff_right (List.getElem?_eq_some_iff.mp hi).1
  refine ⟨fun g hg => (hgroup g hg).1, ?_, ?_, ?_, ?_, ?_, hascending, ?_⟩
  · intro tag
    rw [htags, List.mem_filter, hfirst.mem_iff, mem_tagsOf_iff, isAllowed_iff]
  · rw [htags]
    exact hfirst.nodup.filter _
  · rw [htags]
    exact hfirst.ordered.filter _
  · intro g hg i e hi hunder
    exact List.count_eq_one_of_mem (hascending g hg).nodup ((hmember g hg i e hi).mpr hunder)
  · intro g hg i e hi hunder
    exact mt (hmember g hg i e hi).mp hunder
  · intro g hg i hi
    rw [(hgroup g hg).2] at hi
    exact List.mem_range.mp (List.mem_filter.mp hi).1

/-- Every endpoint is under some tag. -/
theorem Endpoint.exists_isUnder (e : Endpoint) : ∃ tag, e.IsUnder tag := by
  cases htags : e.tags with
  | nil => exact ⟨"default", .inr ⟨htags, rfl⟩⟩
  | cons tag rest => exact ⟨tag, .inl (htags ▸ List.mem_cons_self)⟩

/-- **Grouping.**  If no endpoint repeats a tag, the groups are those of the tags that are
asked for: named by them, one for each, and in the order in which the tags first come up.  A
position stands in the group of a tag once if its endpoint has the tag, or has none and the
tag is `default`, and else not at all, and the positions of a group ascend.  If no tags are
named, every endpoint is in some group; if some are, just their groups are kept. -/
theorem groupByTag_covers (h : ∀ e ∈ endpoints, e.tags.Nodup) :
    (∀ allow, IsGrouping endpoints allow (groupByTag endpoints allow)) ∧
      (∀ i < endpoints.length, ∃ g ∈ groupByTag endpoints [], i ∈ g.members) ∧
      ∀ allow, allow ≠ [] → groupByTag endpoints allow =
        (groupByTag endpoints []).filter fun g => g.name.text ∈ allow := by
  refine ⟨isGrouping_groupByTag h, fun i hi => ?_, fun allow hallow => ?_⟩
  · have hgrouping := isGrouping_groupByTag h []
    obtain ⟨tag, htag⟩ := endpoints[i].exists_isUnder
    have hat : endpoints[i]? = some endpoints[i] := List.getElem?_eq_getElem hi
    have hgroup : tag ∈ (groupByTag endpoints []).map (·.name.text) :=
      (hgrouping.mem_tags_iff tag).mpr ⟨⟨_, List.getElem_mem hi, htag⟩, .inl rfl⟩
    obtain ⟨g, hg, rfl⟩ := List.mem_map.mp hgroup
    have hcount := hgrouping.once g hg i _ hat htag
    exact ⟨g, hg, List.count_pos_iff.mp (by omega)⟩
  · rw [groupByTag_eq_filter]
    refine List.filter_congr fun g _ => ?_
    rw [Bool.eq_iff_iff, isAllowed_iff, decide_eq_true_iff]
    exact or_iff_right hallow

/-- No endpoint of a document repeats a tag. -/
theorem nodup_tags_of_mem_ofDocument {d : Document} (h : e ∈ Endpoint.ofDocument d) :
    e.tags.Nodup := by
  obtain ⟨_, _, _, op, rfl⟩ := Endpoint.exists_eq_ofOperation h
  exact (firstSeen_distinct op.tags).nodup

/-- A document with an operation without tags, one that names `default` itself, and one that
repeats a tag. -/
def tagged : Document where
  version := "3.0.3"
  info := ⟨"Pets", none, "1"⟩
  paths := [("/pets", { operations := [(.get, {}), (.post, { tags := ["pets", "default"] })] }),
    ("/orders", { operations := [(.get, { tags := ["store", "pets", "store"] })] })]

/-- The operation without tags opens the group that the second names. -/
theorem groups_of_tagged :
    (groupByTag (Endpoint.ofDocument tagged) []).map (fun g => (g.name.text, g.members)) =
        [("default", [0, 1]), ("pets", [1, 2]), ("store", [2])] ∧
      (∀ e ∈ Endpoint.ofDocument tagged, e.tags.Nodup) ∧
      IsGrouping (Endpoint.ofDocument tagged) ["store"]
        (groupByTag (Endpoint.ofDocument tagged) ["store"]) := by
  have hnodup : ∀ e ∈ Endpoint.ofDocument tagged, e.tags.Nodup :=
    fun e he => nodup_tags_of_mem_ofDocument he
  exact ⟨by decide +kernel, hnodup, (groupByTag_covers hnodup).1 ["store"]⟩

end ClientGen
