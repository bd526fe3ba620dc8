import ClientGen.Document.MediaKind
import ClientGen.Document.StatusCode
import ClientGen.Endpoint.Basic

/-!
# Which of several representations is used

A body may be declared in several representations and an operation with several
responses; the client is generated for one of each.

* `chooseRequest?`: the most preferred kind, and of several the first declared;
* `chooseResponse?`: the first success, or the first response if none is one, with
  its first JSON representation or else its first.
-/

namespace ClientGen

/-- The representation chosen for a body. -/
structure Representation where
  mime : String
  required : Bool
  schema : Option (OrRef Schema)

/-- The kind of a representation. -/
def Representation.kind (r : Representation) : MediaKind := .ofMime r.mime

/-- The response chosen for an operation. -/
structure ChosenResponse where
  status : StatusCode
  description : Option String
  body : Option Representation

/-- The first entry of the least rank among those that have one. -/
def firstBest? (rank? : α → Option Nat) : List α → Option α
  | [] => none
  | a :: as =>
    match rank? a, firstBest? rank? as with
    | none, best => best
    | some _, none => some a
    | some r, some b => if (rank? b).any (· < r) then some b else some a

/-- The preference for an entry of the content of a request. -/
def requestRank? (entry : String × MediaType) : Option Nat :=
  (MediaKind.ofMime entry.1).requestRank?

/-- The entry of a request's content that is used. -/
def requestChoice? (content : Content) : Option (String × MediaType) :=
  (firstBest? requestRank? content).or content.head?

/-- The representation that is used for a request. -/
def chooseRequest? (body : RequestBody) : Option Representation :=
  (requestChoice? body.content).map fun (mime, media) => ⟨mime, body.required, media.schema⟩

/-- Whether a response is declared for success. -/
def isSuccessEntry (entry : String × OrRef Response) : Bool := (StatusCode.ofKey entry.1).isSuccess

/-- Whether an entry of a body's content is JSON. -/
def isJsonEntry (entry : String × MediaType) : Bool := MediaKind.ofMime entry.1 == .json

/-- The entry of a response's content that is used. -/
def responseBody? (content : Content) : Option Representation :=
  ((content.find? isJsonEntry).or content.head?).map fun (mime, media) => ⟨mime, true, media.schema⟩

/-- The response the operation is generated for; none if it is given by reference. -/
def chooseResponse? (responses : List (String × OrRef Response)) : Option ChosenResponse := do
  let (status, response) ← (responses.find? isSuccessEntry).or responses.head?
  let response ← response.item?
  some ⟨.ofKey status, response.description, responseBody? response.content⟩

namespace Endpoint

/-- The representation of the request body. -/
def request? (e : Endpoint) : Option Representation := e.requestBody?.bind chooseRequest?

/-- The response. -/
def response? (e : Endpoint) : Option ChosenResponse := chooseResponse? e.operation.responses

end Endpoint

end ClientGen
