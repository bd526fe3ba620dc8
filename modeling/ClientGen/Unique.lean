/-!
# Names made unique

Different texts may become the same identifier.  `uniqueNames` keeps the first
bearer of a name and gives each later one the least number, from two on, behind a
separator, such that no earlier result is the same; numbered results count too.

The search for a number looks at as many candidates as there are results so far.
Candidates with different numbers are different texts, so if all of these are
taken the next one is free.
-/

namespace ClientGen

/-- A name with a number behind it. -/
def numbered (separator name : String) (n : Nat) : String := name ++ separator ++ toString n

/-- The least number, from `n` on, whose candidate is not taken; `tries` bounds the search. -/
def freeNumber (separator : String) (taken : List String) (name : String) (n : Nat) : Nat → Nat
  | 0 => n
  | tries + 1 =>
    if numbered separator name n ∈ taken then freeNumber separator taken name (n + 1) tries else n

/-- The name that is given out next when `taken` has been given out. -/
def freshName (separator : String) (taken : List String) (name : String) : String :=
  if name ∈ taken then
    numbered separator name (freeNumber separator taken name 2 taken.length)
  else name

/-- The names behind those already given out, each made fresh in turn. -/
def uniqueFrom (separator : String) (taken : List String) : List String → List String
  | [] => []
  | name :: rest =>
    let fresh := freshName separator taken name
    fresh :: uniqueFrom separator (fresh :: taken) rest

/-- The names with a number behind each repetition. -/
def uniqueNames (separator : String) (names : List String) : List String :=
  uniqueFrom separator [] names

end ClientGen
