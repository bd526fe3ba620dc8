import ClientGen.Endpoint.Basic

/-!
# Endpoints grouped by tag

Endpoints with the same tag become one interface.  An endpoint with several tags
is in several groups, one without tags in the group `default`.  Groups come in the
order in which their tags first appear, and each lists its endpoints by their
positions, in ascending order.
-/

namespace ClientGen

/-- The endpoints of one interface. -/
structure Group where
  /-- The tag. -/
  name : Name
  /-- The positions of the endpoints. -/
  members : List Nat
  deriving DecidableEq, Repr

/-- The group of endpoints without tags. -/
def untagged : String := "default"

/-- The tags an endpoint is grouped under. -/
def Endpoint.groupTags (e : Endpoint) : List String := if e.tags.isEmpty then [untagged] else e.tags

/-- Adds a position under a tag, which is put at the end if it is new. -/
def addMember (tag : String) (i : Nat) : List (String × List Nat) → List (String × List Nat)
  | [] => [(tag, [i])]
  | (t, members) :: rest =>
    if t = tag then (t, members ++ [i]) :: rest else (t, members) :: addMember tag i rest

/-- The positions under each tag, with those of the endpoints from position `i` on added. -/
def groupFrom (i : Nat) (groups : List (String × List Nat)) :
    List Endpoint → List (String × List Nat)
  | [] => groups
  | e :: rest =>
    groupFrom (i + 1) (e.groupTags.foldl (fun g tag => addMember tag i g) groups) rest

/-- Whether a tag is asked for; if no tags are named, all are. -/
def isAllowed (allow : List String) (tag : String) : Bool := allow.isEmpty || allow.contains tag

/-- The groups that are asked for. -/
def groupByTag (endpoints : List Endpoint) (allow : List String) : List Group :=
  ((groupFrom 0 [] endpoints).filter fun (tag, _) => isAllowed allow tag).map
    fun (tag, members) => ⟨.ofText tag, members⟩

end ClientGen
