import ClientGen.Data.Literal
import ClientGen.Document.Reference

/-!
# Schemas

A `Schema` is the part of a JSON schema that matters for types: a bag of optional
keywords, any of which may be given beside any other.  `shape` settles once and
for all which keyword decides, so that everything built on schemas goes by a
closed list of shapes:

composition, then union, then enumeration, then the declared type; where no single
type is declared, the keywords that only lists and objects have.

Maps from names are lists of pairs in the order of the document.

* `OrRef.shape_lt`: the schemas inside a shape are smaller than the schema it is
  the shape of, which is what recursion over shapes ends by.
-/

namespace ClientGen

/-- A type that a schema may declare. -/
inductive SchemaType where
  | string
  | number
  | integer
  | boolean
  | array
  | object
  | null
  deriving DecidableEq, Repr

/-- The type keyword: one type or several alternatives. -/
inductive TypeSet where
  | single (type : SchemaType)
  | several (types : List SchemaType)
  deriving DecidableEq, Repr

/-- What the properties that an object does not declare may be. -/
inductive Additional (σ : Type) where
  /-- Anything, or nothing. -/
  | flag (allowed : Bool)
  /-- Whatever follows the schema. -/
  | schema (values : σ)
  deriving Repr

/-- A schema. -/
structure Schema where
  type : Option TypeSet := none
  format : Option String := none
  title : Option String := none
  description : Option String := none
  /-- Whether null is allowed beside the declared type. -/
  nullable : Option Bool := none
  properties : List (String × OrRef Schema) := []
  /-- The names of the properties that must be present. -/
  required : List String := []
  additional : Option (Additional (OrRef Schema)) := none
  items : Option (OrRef Schema) := none
  allOf : List (OrRef Schema) := []
  oneOf : List (OrRef Schema) := []
  anyOf : List (OrRef Schema) := []
  literals : List Literal := []
  deprecated : Option Bool := none

instance : Inhabited Schema := ⟨{}⟩

/-- What a schema or a reference to one describes. -/
inductive Shape where
  | ref (path : String)
  /-- All of several schemas; the first is the base. -/
  | composed (base : OrRef Schema)
  /-- One or any of several schemas. -/
  | union
  /-- One of several literals. -/
  | enumeration
  | array (items : Option (OrRef Schema))
  /-- An object of undeclared properties. -/
  | map (values : Option (OrRef Schema))
  /-- An object with declared properties, or with nothing known about it. -/
  | object
  | scalar (type : SchemaType) (format : Option String)
  /-- Nothing that narrows the value down. -/
  | any

namespace TypeSet

/-- The only type that is not null, or null if there is no other. -/
def primary? : TypeSet → Option SchemaType
  | single t => some t
  | several types =>
    match types.filter (· ≠ .null) with
    | [t] => some t
    | [] => if types.isEmpty then none else some .null
    | _ => none

/-- Whether null is one of several alternatives. -/
def hasNull : TypeSet → Bool
  | single _ => false
  | several types => types.contains .null

/-- Whether there is more than one alternative. -/
def isChoice : TypeSet → Bool
  | single _ => false
  | several types => types.length > 1

end TypeSet

namespace Schema

/-- The type the schema declares, if it is only one, null aside. -/
def primaryType? (s : Schema) : Option SchemaType := s.type.bind TypeSet.primary?

/-- Whether null is allowed. -/
def isNullable (s : Schema) : Bool := s.nullable == some true || s.type.any TypeSet.hasNull

/-- The shape of an object. -/
def objectShape (s : Schema) : Shape :=
  if !s.properties.isEmpty then .object
  else
    match s.additional with
    | some (.schema values) => .map (some values)
    | some (.flag true) => .map none
    | some (.flag false) => .object
    | none => .object

/-- The shape by the declared type, or by the keywords of lists and objects. -/
def typedShape (s : Schema) : Shape :=
  match s.primaryType? with
  | some .array => .array s.items
  | some .object => s.objectShape
  | some .null => .any
  | some t => .scalar t s.format
  | none =>
    if s.type.any TypeSet.isChoice then .any
    else if s.items.isSome then .array s.items
    else if !s.properties.isEmpty || s.additional.isSome then s.objectShape
    else .any

/-- The shape of a schema. -/
def shape (s : Schema) : Shape :=
  match s.allOf with
  | base :: _ => .composed base
  | [] =>
    if !s.oneOf.isEmpty || !s.anyOf.isEmpty then .union
    else if !s.literals.isEmpty then .enumeration
    else s.typedShape

end Schema

namespace Shape

/-- The schemas that a shape is made of. -/
def inner : Shape → List (OrRef Schema)
  | composed base => [base]
  | array (some items) => [items]
  | map (some values) => [values]
  | _ => []

end Shape

namespace OrRef

/-- The shape of a schema or a reference. -/
def shape : OrRef Schema → Shape
  | ref path => .ref path
  | inline s => s.shape

/-- Whether the schema in place allows null. -/
def isNullable (s : OrRef Schema) : Bool := s.item?.any Schema.isNullable

/-- The description of the schema in place. -/
def description? (s : OrRef Schema) : Option String := s.item?.bind Schema.description

end OrRef

section Size

variable {s : Schema} {t : OrRef Schema}

theorem Schema.sizeOf_items (h : s.items = some t) : sizeOf t < sizeOf s := by
  cases s; simp_all; omega

theorem Schema.sizeOf_values (h : s.additional = some (.schema t)) : sizeOf t < sizeOf s := by
  cases s; simp_all; omega

theorem Schema.sizeOf_allOf (s : Schema) : sizeOf s.allOf < sizeOf s := by
  cases s; simp; omega

/-- The base of a composition is smaller than its schema. -/
theorem Schema.sizeOf_base {rest : List (OrRef Schema)} (h : s.allOf = t :: rest) :
    sizeOf t < sizeOf s := by
  cases s; simp_all; omega

theorem Schema.mem_objectShape (h : t ∈ s.objectShape.inner) : sizeOf t < sizeOf s := by
  unfold objectShape at h
  split at h
  · simp [Shape.inner] at h
  · split at h <;> simp [Shape.inner] at h
    next ha => subst h; exact sizeOf_values ha

theorem Schema.mem_items (h : t ∈ (Shape.array s.items).inner) : sizeOf t < sizeOf s := by
  cases hi : s.items with
  | none => simp [hi, Shape.inner] at h
  | some i =>
    simp [hi, Shape.inner] at h
    subst h
    exact sizeOf_items hi

/-- Whatever a schema is shaped by is smaller than the schema. -/
theorem Schema.mem_shape (h : t ∈ s.shape.inner) : sizeOf t < sizeOf s := by
  unfold shape at h
  split at h
  next ha =>
    simp [Shape.inner] at h
    subst h
    exact sizeOf_base ha
  · split at h
    · simp [Shape.inner] at h
    · split at h
      · simp [Shape.inner] at h
      · unfold typedShape at h
        split at h
        · exact mem_items h
        · exact mem_objectShape h
        · simp [Shape.inner] at h
        · simp [Shape.inner] at h
        · split at h
          · simp [Shape.inner] at h
          · split at h
            · exact mem_items h
            · split at h
              · exact mem_objectShape h
              · simp [Shape.inner] at h

/-- The schemas inside a shape are smaller than what has the shape. -/
theorem OrRef.shape_lt {u : OrRef Schema} (h : t ∈ u.shape.inner) : sizeOf t < sizeOf u := by
  cases u with
  | ref path => simp [OrRef.shape, Shape.inner] at h
  | inline s =>
    have := Schema.mem_shape h
    simp
    omega

end Size

end ClientGen
