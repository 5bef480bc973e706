/-
Sets of code points and maps between them, written as lists of runs.

A run is an arithmetic progression of code points; the step is one for a contiguous range, and two
where upper-case and lower-case letters alternate. The tables of character properties are lists of
runs, so a look-up is a search through the list, and a fact about every member of a set is a fact
about finitely many runs.
-/
set_option autoImplicit false

namespace ClientStyle.Unicode

/-- The code points from `first` to `last`, `step` apart. -/
structure Run where
  first : Nat
  last : Nat
  step : Nat

/-- Whether a code point is in a run. -/
def Run.contains (r : Run) (n : Nat) : Bool :=
  r.first ≤ n && n ≤ r.last && (n - r.first) % r.step == 0

/-- A set of code points. -/
structure CodePointSet where
  runs : List Run

/-- Whether a code point is in a set. -/
def CodePointSet.contains (s : CodePointSet) (n : Nat) : Bool := s.runs.any (·.contains n)

/-- The code points from `first` to `last`, `step` apart, each sent as far from `image` as it lies
from `first`. -/
structure MapRun where
  first : Nat
  last : Nat
  step : Nat
  image : Nat

/-- The image of a code point under a run, if it is in the run. -/
def MapRun.image? (r : MapRun) (n : Nat) : Option Nat :=
  if Run.contains ⟨r.first, r.last, r.step⟩ n then some (r.image + (n - r.first)) else none

/-- A map on code points: some go to several code points, listed one by one, others to a single one,
and all the rest to themselves. -/
structure CodePointMap where
  expansions : List (Nat × List Nat)
  runs : List MapRun

/-- The image of a code point. -/
def CodePointMap.apply (m : CodePointMap) (n : Nat) : List Nat :=
  match m.expansions.lookup n with
  | some image => image
  | none =>
    match m.runs.findSome? (·.image? n) with
    | some image => [image]
    | none => [n]

end ClientStyle.Unicode
