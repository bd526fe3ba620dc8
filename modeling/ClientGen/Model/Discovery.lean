import ClientGen.Endpoint.Negotiation
import ClientGen.Model.Flatten

/-!
# The models an endpoint depends on

Each schema leads to at most one key, its **seed**: the key of the reference that
is reached through bases of compositions, items of lists and values of maps.
Unions and objects in place lead nowhere.  A declared schema depends on the seeds
of everything its definition is made of, and an endpoint on the seeds of its
request, its parameters and its JSON responses; the models it needs are the keys
that can be reached from those.

* `seed?`, `definitionSeeds`: the edges of the graph of keys;
* `reach`: the keys reached from a list of keys.  Each round either shortens the
  list or finds a declared key for the first time.
-/

namespace ClientGen

/-- The schema of the properties that are not declared, if they have one. -/
def Schema.values? (s : Schema) : Option (OrRef Schema) :=
  match s.additional with
  | some (.schema values) => some values
  | _ => none

namespace Schemas

/-- The key a schema leads to. -/
def seed? (schemas : Schemas) (s : OrRef Schema) : Option String :=
  match h : s.shape with
  | .ref path => (schemas.keyOf path).toOption
  | .composed base =>
    have := OrRef.shape_lt (u := s) (t := base) (by simp [h, Shape.inner])
    schemas.seed? base
  | .array (some items) =>
    have := OrRef.shape_lt (u := s) (t := items) (by simp [h, Shape.inner])
    schemas.seed? items
  | .map (some values) =>
    have := OrRef.shape_lt (u := s) (t := values) (by simp [h, Shape.inner])
    schemas.seed? values
  | _ => none
termination_by sizeOf s

/-- The keys some schemas lead to. -/
def seeds (schemas : Schemas) (list : List (OrRef Schema)) : List String :=
  list.filterMap schemas.seed?

mutual

/-- The keys a definition leads to: those of all it is made of. -/
def definitionSeeds (schemas : Schemas) : OrRef Schema → List String
  | .ref path => schemas.seeds [.ref path]
  | .inline s =>
    schemas.seeds (s.properties.map (·.2)) ++ schemas.memberSeeds s.allOf
      ++ schemas.seeds s.items.toList ++ schemas.seeds s.values?.toList
termination_by s => sizeOf s
decreasing_by
  have := Schema.sizeOf_allOf s
  simp
  omega

/-- The keys the members of a composition lead to, with the definitions of those in place. -/
def memberSeeds (schemas : Schemas) : List (OrRef Schema) → List String
  | [] => []
  | .ref path :: rest => schemas.seeds [.ref path] ++ schemas.memberSeeds rest
  | .inline s :: rest =>
    schemas.seeds [.inline s] ++ schemas.definitionSeeds (.inline s) ++ schemas.memberSeeds rest
termination_by members => sizeOf members

end

/-- The keys reached from those still to be visited, added to those visited before. -/
def reach (schemas : Schemas) (found : List String) : List String → List String
  | [] => found
  | key :: rest =>
    if _hkey : key ∈ found then schemas.reach found rest
    else
      match _hs : schemas.lookup key with
      | none => schemas.reach found rest
      | some s => schemas.reach (key :: found) (schemas.definitionSeeds s ++ rest)
termination_by todo => ((schemas.unentered found).length, todo.length)
decreasing_by
  · exact Prod.Lex.right _ (by simp)
  · exact Prod.Lex.right _ (by simp)
  · exact Prod.Lex.left _ _ (unentered_lt _hkey _hs)

/-- The keys that can be reached from a schema. -/
def closure (schemas : Schemas) (s : OrRef Schema) : NameSet :=
  .ofList (schemas.reach [] (schemas.seeds [s]))

end Schemas

namespace Endpoint

/-- The schemas a request leads to: those of the fields of a form, or that of the body. -/
def requestSchemas (schemas : Schemas) (r : Representation) : List (OrRef Schema) :=
  match r.schema with
  | none => []
  | some s =>
    match r.kind.flavor with
    | .multipart | .urlEncoded =>
      match schemas.flatten s with
      | .ok properties => properties.map (·.schema)
      | .error _ => [s]
    | .whole | .unsupported => [s]

/-- The schemas of the JSON representations of a response. -/
def responseSchemas (r : Response) : List (OrRef Schema) :=
  (r.content.filter isJsonEntry).filterMap fun (_, media) => media.schema

/-- The schemas an endpoint is made of. -/
def schemasOf (schemas : Schemas) (e : Endpoint) : List (OrRef Schema) :=
  (e.request?.map (requestSchemas schemas)).getD []
    ++ e.parameters.filterMap (·.schema)
    ++ (e.operation.responses.filterMap fun (_, r) => r.item?).flatMap responseSchemas

/-- The keys of the models an endpoint depends on. -/
def discover (schemas : Schemas) (e : Endpoint) : NameSet :=
  .ofList (schemas.reach [] (schemas.seeds (e.schemasOf schemas)))

end Endpoint

end ClientGen
