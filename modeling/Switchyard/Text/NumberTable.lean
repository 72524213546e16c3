import Switchyard.Number.Whole

/-!
  Tables written as text: numbers in base sixteen between blanks and line breaks.  Positions that
  ascend are given by their distances.
-/

namespace Switchyard.Text

/-- The numbers of a text. -/
def tableNumbers (text : String) : List Nat :=
  ((text.toList.splitBy fun a b => (a = ' ' || a = '\n') = (b = ' ' || b = '\n')).filterMap
    fun word => Number.readNat 16 word)

/-- Distances added up. -/
def runningSums (start : Nat) : List Nat → List Nat
  | [] => []
  | n :: ns => (start + n) :: runningSums (start + n) ns

/-- Rows of two numbers, the first of them a position. -/
def tablePairs (start : Nat) : List Nat → List (Nat × Nat)
  | gap :: a :: rest => (start + gap, a) :: tablePairs (start + gap) rest
  | _ => []

/-- Rows of three numbers, the first of them a position. -/
def tableTriples (start : Nat) : List Nat → List (Nat × Nat × Nat)
  | gap :: a :: b :: rest => (start + gap, a, b) :: tableTriples (start + gap) rest
  | _ => []

/-- Rows of four numbers, the first of them a position. -/
def tableQuadruples (start : Nat) : List Nat → List (Nat × Nat × Nat × Nat)
  | gap :: a :: b :: c :: rest => (start + gap, a, b, c) :: tableQuadruples (start + gap) rest
  | _ => []

/-- Rows of a position and as many numbers as the second one says.  A row has at least two numbers,
    so that many steps are enough. -/
def tableRows (start : Nat) : (steps : Nat) → List Nat → List (Nat × List Nat)
  | steps + 1, gap :: n :: rest =>
    (start + gap, rest.take n) :: tableRows (start + gap) steps (rest.drop n)
  | _, _ => []

end Switchyard.Text
