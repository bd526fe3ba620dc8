import ClientGen.NameSet

/-!
# Types of the generated client

What a schema means to the client, before any Kotlin is written.  A `TypeDesc`
is a primitive, a model or enum named by its key in the document, or an array,
a map or a nullable form of another type.

Nullability is added through `orNull`, which leaves a nullable type as it is;
`NeverDoubled` says that nothing inside a type is nullable twice.

* `NeverDoubled.orNull`: adding null keeps that;
* `keys_orNull`: and changes none of the keys a type mentions.
-/

namespace ClientGen

/-- Scalar types, independent of how Kotlin spells them. -/
inductive Primitive where
  | string
  | int
  | long
  | float
  | double
  | boolean
  | date
  | dateTime
  /-- Raw bytes. -/
  | binary
  /-- Any value at all. -/
  | any
  deriving DecidableEq, Repr, Inhabited

/-- The type a schema stands for. -/
inductive TypeDesc where
  | primitive (p : Primitive)
  /-- The model with this key. -/
  | model (key : String)
  /-- The enum with this key. -/
  | enum (key : String)
  | array (item : TypeDesc)
  | map (value : TypeDesc)
  | nullable (inner : TypeDesc)
  deriving DecidableEq, Repr, Inhabited

namespace TypeDesc

/-- Any value at all. -/
abbrev any : TypeDesc := .primitive .any

/-- Whether the type admits null at its top. -/
def isNullable : TypeDesc → Bool
  | .nullable _ => true
  | _ => false

/-- The type with null added, unless it admits null already. -/
def orNull : TypeDesc → TypeDesc
  | .nullable t => .nullable t
  | t => .nullable t

/-- The type with null added on a condition. -/
def orNullIf (t : TypeDesc) (condition : Bool) : TypeDesc := if condition then t.orNull else t

/-- The type with one level of null removed. -/
def nonNull : TypeDesc → TypeDesc
  | .nullable t => t
  | t => t

/-- Whether the type is raw bytes, null aside. -/
def isBinary (t : TypeDesc) : Bool := t.nonNull == .primitive .binary

/-- The keys a type mentions, from left to right. -/
def keys : TypeDesc → List String
  | .primitive _ => []
  | .model key => [key]
  | .enum key => [key]
  | .array t => t.keys
  | .map t => t.keys
  | .nullable t => t.keys

/-- The keys a type mentions, as a set. -/
def modelNames (t : TypeDesc) : NameSet := NameSet.ofList t.keys

/-- At no depth is a nullable type made nullable again. -/
def NeverDoubled : TypeDesc → Prop
  | .primitive _ => True
  | .model _ => True
  | .enum _ => True
  | .array t => t.NeverDoubled
  | .map t => t.NeverDoubled
  | .nullable t => t.isNullable = false ∧ t.NeverDoubled

@[simp] theorem isNullable_orNull (t : TypeDesc) : t.orNull.isNullable = true := by
  cases t <;> rfl

/-- Adding null to a type does not double it, as a nullable type stays as it is. -/
theorem NeverDoubled.orNull {t : TypeDesc} (h : t.NeverDoubled) : t.orNull.NeverDoubled := by
  cases t <;> simp_all [TypeDesc.orNull, NeverDoubled, isNullable]

/-- Nor does adding it on a condition. -/
theorem NeverDoubled.orNullIf {t : TypeDesc} (h : t.NeverDoubled) (c : Bool) :
    (t.orNullIf c).NeverDoubled := by
  cases c
  · exact h
  · exact h.orNull

@[simp] theorem keys_orNull (t : TypeDesc) : t.orNull.keys = t.keys := by cases t <;> rfl

@[simp] theorem keys_orNullIf (t : TypeDesc) (c : Bool) : (t.orNullIf c).keys = t.keys := by
  cases c <;> simp [orNullIf]

end TypeDesc

end ClientGen
