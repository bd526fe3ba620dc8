import ClientGen.Document.Basic

/-!
# Failures of the analysis

What keeps one operation or one model from being generated: a reference that
could not be followed, and where it was met.
-/

namespace ClientGen

/-- Why an operation or a model is left out. -/
inductive Failure where
  /-- The type of a parameter, or of a field of a form. -/
  | parameter (method : Method) (path name : String) (cause : ReferenceError)
  | requestBody (method : Method) (path : String) (cause : ReferenceError)
  | property (key name : String) (cause : ReferenceError)
  | model (key : String) (cause : ReferenceError)
  /-- Nothing but the reference is known. -/
  | reference (cause : ReferenceError)
  deriving DecidableEq, Repr

namespace Failure

/-- The reference that is to blame. -/
def cause : Failure → ReferenceError
  | parameter _ _ _ cause => cause
  | requestBody _ _ cause => cause
  | property _ _ cause => cause
  | model _ cause => cause
  | reference cause => cause

/-- The failure in front of its cause, if it adds anything to the cause. -/
def context? : Failure → Option String
  | parameter method path name _ =>
    some (method.text ++ " " ++ path ++ ": cannot resolve type of parameter `" ++ name ++ "`")
  | requestBody method path _ =>
    some (method.text ++ " " ++ path ++ ": cannot resolve request body type")
  | property key name _ =>
    some ("model `" ++ key ++ "`: cannot resolve type of property `" ++ name ++ "`")
  | model key _ => some ("model `" ++ key ++ "`")
  | reference _ => none

/-- The text of a failure. -/
def message (f : Failure) : String :=
  match f.context? with
  | some context => context ++ ": " ++ f.cause.message
  | none => f.cause.message

end Failure

end ClientGen
