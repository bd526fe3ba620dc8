import ClientGen.Analysis.Failure
import ClientGen.Document.StatusCode

/-!
# Notices

Whoever runs the generator is told about everything in a document that has less
effect than its author may expect.  A `Notice` is one such remark; `Logged` is a
value together with the remarks made on the way to it, in order.  The value never
depends on the remarks, so it can be reasoned about as if there were none.
-/

namespace ClientGen

/-- A place in a document: a path, or an operation on it. -/
structure Place where
  method : Option Method := none
  path : String
  deriving DecidableEq, Repr

/-- The place as it is named in remarks. -/
def Place.text (p : Place) : String :=
  match p.method with
  | some method => method.text ++ " " ++ p.path
  | none => p.path

/-- A remark about a document. -/
inductive Notice where
  /-- The document declares a version that is not supported. -/
  | unsupportedVersion (version : String)
  | parameterLeft (place : Place) (cause : ReferenceError)
  | requestBodyLeft (place : Place) (cause : ReferenceError)
  | responseEmptied (place : Place) (status : String) (cause : ReferenceError)
  /-- A tag was asked for that no operation has. -/
  | unmatchedTag (tag : String)
  | bodyWithoutSchema (place : Place) (mime : String)
  | unsupportedBody (place : Place) (mime : String)
  | noResponses (place : Place)
  | untypedResponse (place : Place) (cause : ReferenceError)
  /-- An operation or a model is left out. -/
  | leftOut (failure : Failure)
  /-- Two operations of one interface have the same name. -/
  | repeatedOperation (interface : String) (place : Place) (name : String)
  /-- No operation of an interface is left. -/
  | emptyInterface (interface : String)
  | undeclaredScheme (name : String)
  /-- A key is asked for, but not where it goes. -/
  | namelessKey (scheme : String)
  deriving DecidableEq, Repr

namespace Notice

/-- Whether something is missing from the output, rather than only doubtful. -/
def isError : Notice → Bool
  | leftOut _ => true
  | _ => false

/-- The text of a remark. -/
def message : Notice → String
  | unsupportedVersion version =>
    "document declares openapi " ++ version ++ ", continuing because parse errors are allowed"
  | parameterLeft place cause =>
    place.text ++ ": parameter left unresolved: " ++ cause.message
  | requestBodyLeft place cause =>
    place.text ++ ": request body left unresolved: " ++ cause.message
  | responseEmptied place status cause =>
    place.text ++ ": response " ++ status ++ " treated as empty: " ++ cause.message
  | unmatchedTag tag => "tag `" ++ tag ++ "` does not match any operation"
  | bodyWithoutSchema place mime =>
    place.text ++ ": " ++ mime ++ " body without schema yields no parameters"
  | unsupportedBody place mime =>
    place.text ++ ": unsupported request content type `" ++ mime
      ++ "`, no body parameters generated"
  | noResponses place => place.text ++ ": no responses declared, returning an empty body"
  | untypedResponse place cause =>
    place.text ++ ": cannot resolve response type (" ++ cause.message
      ++ "), returning an empty body"
  | leftOut failure => failure.message
  | repeatedOperation interface place name =>
    interface ++ ": skipping " ++ place.text ++ ", an operation named `" ++ name
      ++ "` already exists"
  | emptyInterface interface =>
    "skipping " ++ interface ++ ": no operation could be generated"
  | undeclaredScheme name => "security scheme `" ++ name ++ "` is used but not declared"
  | namelessKey scheme =>
    "security scheme `" ++ scheme ++ "` has no parameter name, credentials are not applied"

/-- The remark with its weight in front. -/
def line (n : Notice) : String := (if n.isError then "ERROR: " else "WARN: ") ++ n.message

end Notice

/-- A value and the remarks made on the way to it. -/
structure Logged (α : Type u) where
  value : α
  notices : List Notice := []

namespace Logged

/-- A remark by itself. -/
def note (n : Notice) : Logged Unit := ⟨(), [n]⟩

/-- The value put to use, with the remarks of both. -/
def andThen (x : Logged α) (f : α → Logged β) : Logged β :=
  let y := f x.value
  ⟨y.value, x.notices ++ y.notices⟩

instance : Monad Logged where
  pure a := ⟨a, []⟩
  bind := andThen

/-- Remarks do not reach the value of what comes next. -/
@[simp] theorem value_bind (x : Logged α) (f : α → Logged β) :
    (x >>= f).value = (f x.value).value := rfl

/-- Each item of a list in turn. -/
def each (f : α → Logged β) : List α → Logged (List β)
  | [] => pure []
  | a :: as => do
    let b ← f a
    let bs ← each f as
    pure (b :: bs)

/-- Each item of a list in turn, with a state handed from one to the next. -/
def thread (f : σ → α → Logged (β × σ)) : σ → List α → Logged (List β × σ)
  | s, [] => pure ([], s)
  | s, a :: as => do
    let (b, s) ← f s a
    let (bs, s) ← thread f s as
    pure (b :: bs, s)

/-- Each item of a list whose value is kept under a key. -/
def threadValues (f : σ → κ → α → Logged (β × σ)) (s : σ) (entries : List (κ × α)) :
    Logged (List (κ × β) × σ) :=
  thread (fun s (k, a) => do
    let (b, s) ← f s k a
    pure ((k, b), s)) s entries

end Logged

end ClientGen
