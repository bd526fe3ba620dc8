import ClientGen.Proofs.Model.Typing
import ClientGen.Proofs.Respelling.Pointwise

/-!
# Schemas that spell nullability differently

A schema of one type that allows null can say so by the keyword `nullable`, or by null as
a second type.  `Schema.Respelled` relates two schemas that are the same but for that, at
the top and anywhere inside.  Such schemas allow null both or neither, declare the same
type, null aside, and have the same shape up to what is inside it.  Everything that is
made of schemas goes by these three.

* `primaryType?_eq`, `isNullable_eq`, `Respelled.shape`: the three;
* `Schemas.Respelled.typeOf_eq`: the types they stand for.
-/

namespace ClientGen

open List (Forall₂)

/-- Two ways to say which type a schema has and whether it allows null. -/
inductive Respelling : Option TypeSet → Option Bool → Option TypeSet → Option Bool → Prop
  | same (type : Option TypeSet) (nullable : Option Bool) : Respelling type nullable type nullable
  | nullLast (t : SchemaType) :
      Respelling (some (.single t)) (some true) (some (.several [t, .null])) none
  | nullFirst (t : SchemaType) :
      Respelling (some (.single t)) (some true) (some (.several [.null, t])) none

/-- The same schema, of which any number of nodes in place are respelled. -/
inductive Schema.Respelled : Schema → Schema → Prop
  | mk {s s' : Schema} (hspelling : Respelling s.type s.nullable s'.type s'.nullable)
      (hproperties : Forall₂ (EntryRel (OrRef.Rel Respelled)) s.properties s'.properties)
      (hadditional : Option.Rel (Additional.Rel (OrRef.Rel Respelled)) s.additional s'.additional)
      (hitems : Option.Rel (OrRef.Rel Respelled) s.items s'.items)
      (hallOf : Forall₂ (OrRef.Rel Respelled) s.allOf s'.allOf)
      (honeOf : Forall₂ (OrRef.Rel Respelled) s.oneOf s'.oneOf)
      (hanyOf : Forall₂ (OrRef.Rel Respelled) s.anyOf s'.anyOf)
      (hformat : s'.format = s.format) (htitle : s'.title = s.title)
      (hdescription : s'.description = s.description) (hrequired : s'.required = s.required)
      (hliterals : s'.literals = s.literals) (hdeprecated : s'.deprecated = s.deprecated) :
      Respelled s s'

/-- The same reference, or the same schema respelled. -/
abbrev OrRef.Respelled : OrRef Schema → OrRef Schema → Prop := OrRef.Rel Schema.Respelled

/-! ### A node -/

variable {type type' : Option TypeSet} {nullable nullable' : Option Bool}

/-- Both spellings have the same type, null aside. -/
theorem Respelling.primary? (h : Respelling type nullable type' nullable') :
    type.bind TypeSet.primary? = type'.bind TypeSet.primary? := by
  cases h with
  | same => rfl
  | nullLast t => cases t <;> rfl
  | nullFirst t => cases t <;> rfl

/-- Both spellings allow null, or neither does. -/
theorem Respelling.allowsNull (h : Respelling type nullable type' nullable') :
    (nullable == some true || type.any TypeSet.hasNull) =
      (nullable' == some true || type'.any TypeSet.hasNull) := by
  cases h with
  | same => rfl
  | nullLast t => cases t <;> rfl
  | nullFirst t => cases t <;> rfl

/-- A node without a primary type is spelled as it was. -/
theorem Respelling.eq_of_primary?_eq_none (h : Respelling type nullable type' nullable')
    (hnone : type.bind TypeSet.primary? = none) : type' = type := by
  cases h with
  | same => rfl
  | nullLast t => cases hnone
  | nullFirst t => cases hnone

namespace Schema.Respelled

variable {s s' : Schema}

theorem spelling (h : s.Respelled s') : Respelling s.type s.nullable s'.type s'.nullable := by
  cases h; assumption

theorem properties (h : s.Respelled s') :
    Forall₂ (EntryRel OrRef.Respelled) s.properties s'.properties := by
  cases h; assumption

theorem additional (h : s.Respelled s') :
    Option.Rel (Additional.Rel OrRef.Respelled) s.additional s'.additional := by
  cases h; assumption

theorem items (h : s.Respelled s') : Option.Rel OrRef.Respelled s.items s'.items := by
  cases h; assumption

theorem allOf (h : s.Respelled s') : Forall₂ OrRef.Respelled s.allOf s'.allOf := by
  cases h; assumption

theorem oneOf (h : s.Respelled s') : Forall₂ OrRef.Respelled s.oneOf s'.oneOf := by
  cases h; assumption

theorem anyOf (h : s.Respelled s') : Forall₂ OrRef.Respelled s.anyOf s'.anyOf := by
  cases h; assumption

theorem format (h : s.Respelled s') : s'.format = s.format := by
  cases h; assumption

theorem description (h : s.Respelled s') : s'.description = s.description := by
  cases h; assumption

theorem required (h : s.Respelled s') : s'.required = s.required := by
  cases h; assumption

theorem literals (h : s.Respelled s') : s'.literals = s.literals := by
  cases h; assumption

theorem deprecated (h : s.Respelled s') : s'.deprecated = s.deprecated := by
  cases h; assumption

/-- The first type that is not null is the same. -/
theorem primaryType?_eq (h : s.Respelled s') : s.primaryType? = s'.primaryType? :=
  h.spelling.primary?

theorem isNullable_eq (h : s.Respelled s') : s.isNullable = s'.isNullable :=
  h.spelling.allowsNull

/-- The primitive type of the schema's literals is the same. -/
theorem literalPrimitive_eq (h : s.Respelled s') : s.literalPrimitive = s'.literalPrimitive := by
  rw [literalPrimitive, h.primaryType?_eq, ← h.format, literalPrimitive]

end Schema.Respelled

/-! ### Shapes -/

/-- The same shape, up to what is inside. -/
inductive Shape.Respelled : Shape → Shape → Prop
  | ref (path : String) : Respelled (.ref path) (.ref path)
  | composed {base base' : OrRef Schema} (h : base.Respelled base') :
      Respelled (.composed base) (.composed base')
  | union : Respelled .union .union
  | enumeration : Respelled .enumeration .enumeration
  | array {items items' : Option (OrRef Schema)} (h : Option.Rel OrRef.Respelled items items') :
      Respelled (.array items) (.array items')
  | map {values values' : Option (OrRef Schema)} (h : Option.Rel OrRef.Respelled values values') :
      Respelled (.map values) (.map values')
  | object : Respelled .object .object
  | scalar (type : SchemaType) (format : Option String) :
      Respelled (.scalar type format) (.scalar type format)
  | any : Respelled .any .any

namespace Schema.Respelled

variable {s s' : Schema}

/-- An object is shaped by respelled schemas. -/
theorem objectShape (h : s.Respelled s') : s.objectShape.Respelled s'.objectShape := by
  have hadditional := h.additional
  unfold Schema.objectShape
  rw [← isEmpty_eq_of_rel h.properties]
  split
  · exact .object
  · generalize s.additional = values, s'.additional = values' at hadditional
    cases hadditional with
    | none => exact .object
    | some hvalues =>
        cases hvalues with
        | flag allowed => cases allowed <;> constructor; constructor
        | schema hvalues => exact .map (.some hvalues)

/-- So is any schema that its type gives the shape of. -/
theorem typedShape (h : s.Respelled s') : s.typedShape.Respelled s'.typedShape := by
  have hobject := h.objectShape
  have hitems : (Shape.array s.items).Respelled (.array s'.items) := .array h.items
  have hany := Shape.Respelled.any
  unfold Schema.typedShape
  rw [← h.primaryType?_eq]
  split
  · exact hitems
  · exact hobject
  · exact hany
  · rw [h.format]
    exact .scalar _ _
  next hnone =>
    rw [h.spelling.eq_of_primary?_eq_none hnone, ← isSome_eq_of_rel h.items,
      ← isEmpty_eq_of_rel h.properties, ← isSome_eq_of_rel h.additional]
    split
    · exact hany
    · split
      · exact hitems
      · split
        · exact hobject
        · exact hany

/-- **Shapes.**  A schema keeps its shape when it is respelled. -/
theorem shape (h : s.Respelled s') : s.shape.Respelled s'.shape := by
  have hallOf := h.allOf
  have htyped := h.typedShape
  unfold Schema.shape
  generalize s.allOf = members, s'.allOf = members' at hallOf
  cases hallOf with
  | cons hbase _ => exact .composed hbase
  | nil =>
      dsimp only
      rw [← isEmpty_eq_of_rel h.oneOf, ← isEmpty_eq_of_rel h.anyOf, h.literals]
      split
      · exact .union
      · split
        · exact .enumeration
        · exact htyped

end Schema.Respelled

namespace OrRef.Rel

variable {s s' : OrRef Schema}

/-- The shape of a respelled schema is that of the schema, with the schemas in it respelled. -/
theorem shape (h : s.Respelled s') : s.shape.Respelled s'.shape := by
  cases h with
  | ref path => exact .ref path
  | inline h => exact h.shape

theorem isNullable_eq (h : s.Respelled s') : s.isNullable = s'.isNullable := by
  cases h with
  | ref path => rfl
  | inline h => exact h.isNullable_eq

theorem description?_eq (h : s.Respelled s') : s.description? = s'.description? :=
  bind?_eq_of_rel (fun _ _ h => h.description.symm) h.item?

theorem deprecated?_eq (h : s.Respelled s') :
    s.item?.bind Schema.deprecated = s'.item?.bind Schema.deprecated :=
  bind?_eq_of_rel (fun _ _ h => h.deprecated.symm) h.item?

/-- The literals of a referred or an inline schema have the same type. -/
theorem literalType_eq (h : s.Respelled s') : Schemas.literalType s = Schemas.literalType s' := by
  cases h with
  | ref path => rfl
  | inline h => exact congrArg TypeDesc.primitive h.literalPrimitive_eq

/-- What holds of two schemas if it holds of those inside their shapes. -/
@[elab_as_elim]
theorem shape_induct {motive : OrRef Schema → OrRef Schema → Prop}
    (step : ∀ s s' : OrRef Schema, s.Respelled s' →
      (∀ t ∈ s.shape.inner, ∀ t', t.Respelled t' → motive t t') → motive s s')
    (h : s.Respelled s') : motive s s' := by
  induction hsize : sizeOf s using Nat.strongRecOn generalizing s s' with
  | ind n ih =>
      refine step s s' h fun t ht t' htt' => ?_
      exact ih (sizeOf t) (hsize ▸ OrRef.shape_lt ht) htt' rfl

end OrRef.Rel

/-! ### Types -/

/-- The same keys with the same schemas respelled. -/
abbrev Schemas.Respelled : Schemas → Schemas → Prop := Forall₂ (EntryRel OrRef.Respelled)

namespace Schemas.Respelled

variable {schemas schemas' : Schemas}

/-- A key is declared on both sides, by respelled schemas, or on neither. -/
theorem lookup (h : schemas.Respelled schemas') (key : String) :
    Option.Rel OrRef.Respelled (schemas.lookup key) (schemas'.lookup key) :=
  rel_lookup key h

theorem lookup_eq_none (h : schemas.Respelled schemas') {key : String}
    (hnone : schemas.lookup key = none) : schemas'.lookup key = none :=
  eq_none_of_rel (hnone ▸ h.lookup key)

/-- A declared key is declared by the respelling too. -/
theorem exists_lookup (h : schemas.Respelled schemas') {key : String} {s : OrRef Schema}
    (hs : schemas.lookup key = some s) :
    ∃ s', schemas'.lookup key = some s' ∧ s.Respelled s' :=
  exists_of_rel (hs ▸ h.lookup key)

/-- A path names the same key, or fails with the same failure. -/
theorem keyOf_eq (h : schemas.Respelled schemas') (path : String) :
    schemas.keyOf path = schemas'.keyOf path := by
  unfold keyOf
  split
  · rfl
  · rw [isSome_eq_of_rel (h.lookup _)]

/-- A key stands for an enumeration on both sides, or on neither. -/
theorem isEnumeration_eq (h : schemas.Respelled schemas') (key : String) :
    schemas.isEnumeration key = schemas'.isEnumeration key := by
  have hlookup := h.lookup key
  unfold isEnumeration
  generalize schemas.lookup key = s, schemas'.lookup key = s' at hlookup
  cases hlookup with
  | none => rfl
  | @some s s' hs =>
      have hshape := hs.shape
      simp only [Option.map_some]
      generalize s.shape = shape, s'.shape = shape' at hshape
      cases hshape <;> rfl

/-- A reference has the same type, or the same failure. -/
theorem typeOfRef_eq (h : schemas.Respelled schemas') (path : String) :
    schemas.typeOfRef path = schemas'.typeOfRef path := by
  unfold typeOfRef
  rw [h.keyOf_eq]
  congr 1
  funext key
  rw [h.isEnumeration_eq]

/-- The type of a shape, given those of the schemas inside. -/
theorem shapeType_eq (h : schemas.Respelled schemas') {s s' : OrRef Schema} (hs : s.Respelled s')
    (hinner : ∀ t ∈ s.shape.inner, ∀ t', t.Respelled t' → schemas.typeOf t = schemas'.typeOf t') :
    schemas.shapeType s = schemas'.shapeType s' := by
  have hshape := hs.shape
  unfold shapeType
  rw [hs.literalType_eq]
  generalize s.shape = shape, s'.shape = shape' at hshape hinner
  cases hshape with
  | ref path => exact h.typeOfRef_eq path
  | composed hbase => exact hinner _ (List.mem_singleton_self _) _ hbase
  | array hitems =>
      cases hitems with
      | none => rfl
      | some hitems =>
          simp only [hinner _ (List.mem_singleton_self _) _ hitems]
  | map hvalues =>
      cases hvalues with
      | none => rfl
      | some hvalues =>
          simp only [hinner _ (List.mem_singleton_self _) _ hvalues]
  | union => rfl
  | enumeration => rfl
  | object => rfl
  | scalar type format => rfl
  | any => rfl

/-- **Types.**  A schema keeps its type when it is respelled, and so do those it may refer
to. -/
theorem typeOf_eq (h : schemas.Respelled schemas') {s s' : OrRef Schema} (hs : s.Respelled s') :
    schemas.typeOf s = schemas'.typeOf s' := by
  refine OrRef.Rel.shape_induct (fun s s' hs hinner => ?_) hs
  rw [Schemas.typeOf_eq, Schemas.typeOf_eq, hs.isNullable_eq, h.shapeType_eq hs hinner]

/-- So has a schema that may be missing. -/
theorem typeOf?_eq (h : schemas.Respelled schemas') {s? s'? : Option (OrRef Schema)}
    (hs : Option.Rel OrRef.Respelled s? s'?) : schemas.typeOf? s? = schemas'.typeOf? s'? := by
  cases hs with
  | none => rfl
  | some hs => exact h.typeOf_eq hs

end Schemas.Respelled

end ClientGen
