import Switchyard.Number.Whole

/-!
  A supply of ids for requests that come without one: texts in the form of version 4 UUIDs, numbered from
  zero.  It stands in for a random generator where a run is to be repeated; a router takes any other supply
  just as well.
-/

namespace Switchyard.Http

/-- A number in base ten with at least `width` digits. -/
def padded (width n : Nat) : String :=
  let digits := Nat.toDigits 10 n
  String.ofList (List.replicate (width - digits.length) '0' ++ digits)

/-- What all generated ids begin with. -/
def requestIdStem : String := "00000000-0000-4000-8000-"

/-- The id that is generated after `n` others. -/
def nthRequestId (n : Nat) : String := requestIdStem ++ padded 12 n

end Switchyard.Http
