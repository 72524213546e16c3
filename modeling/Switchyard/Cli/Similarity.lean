/-!
  How much two words are alike, by the letters they share.

  Two letters count as shared when they are equal and their places differ by less than half of the
  longer word.  The measure is the mean of three parts: how much of either word is shared, and how
  many of the shared letters stand in the same order.
-/

namespace Switchyard.Cli

/-- How far apart the places of a shared letter may be. -/
def reach (a b : List Char) : Nat := max a.length b.length / 2 - 1

/-- The first place, from a number on, of a letter among the free places within bounds. -/
def findShared (c : Char) (low high : Nat) (taken : List Nat) : Nat → List Char → Option Nat
  | _, [] => none
  | place, d :: rest =>
    if low ≤ place && place < high && c = d && !taken.contains place then some place
    else findShared c low high taken (place + 1) rest

/-- The places of the second word that letters of the first one share, in the order of the first,
    with those letters. -/
def sharedPlaces (width : Nat) (b : List Char) : Nat → List Nat → List Char → List (Char × Nat)
  | _, _, [] => []
  | place, taken, c :: rest =>
    match findShared c (place - width) (place + width + 1) taken 0 b with
    | some q => (c, q) :: sharedPlaces width b (place + 1) (q :: taken) rest
    | none => sharedPlaces width b (place + 1) taken rest

/-- How much two words are alike, in millionths; nothing for seven tenths or less. -/
def likeness? (a b : String) : Option Nat :=
  let (as, bs) := (a.toList, b.toList)
  let shared := sharedPlaces (reach as bs) bs 0 [] as
  let m := shared.length
  let inOrder := (shared.map (·.2)).mergeSort.filterMap fun q => bs[q]?
  let moved := ((shared.map (·.1)).zip inOrder).countP fun p => p.1 ≠ p.2
  let kept := m - moved / 2
  let (x, y) := (as.length, bs.length)
  let scale := 1000000
  if x = 0 ∨ y = 0 ∨ m = 0 then none
  else
    let likeness := (m * y * m + m * x * m + kept * x * y) * scale / (3 * x * y * m)
    if 7 * scale < 10 * likeness then some likeness else none

end Switchyard.Cli
