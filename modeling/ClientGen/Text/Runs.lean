/-!
# Runs of code points

A property of characters is kept as a list of **runs**: a first and a last code
point and the distance between neighbours.  Scripts that alternate a capital
with its small letter are runs of distance two, so a property of more than a
thousand letters fits in a few dozen runs.  `inRuns` decides membership and
`shiftOf?` reads a case table whose runs also carry how far their members move.
-/

namespace ClientGen.Text

/-- A code point lies in a run when the run reaches it in whole steps from its first member. -/
def inRun (n first last step : Nat) : Bool :=
  first ≤ n && n ≤ last && (n - first) % step == 0

/-- Membership in a list of closed ranges. -/
def inRanges (ranges : List (Nat × Nat)) (n : Nat) : Bool :=
  ranges.any fun (first, last) => first ≤ n && n ≤ last

/-- Membership in a list of runs. -/
def inRuns (runs : List (Nat × Nat × Nat)) (n : Nat) : Bool :=
  runs.any fun (first, last, step) => inRun n first last step

/-- How far a code point moves under a case table, if the table moves it. -/
def shiftOf? (table : List (Nat × Nat × Nat × Int)) (n : Nat) : Option Int :=
  (table.find? fun (first, last, step, _) => inRun n first last step).map (·.2.2.2)

end ClientGen.Text
