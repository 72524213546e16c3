import Switchyard.Net.Idna.MappingTable
import Switchyard.Text.Canonical
import Switchyard.Text.CodeSet

/-!
  The one spelling of a domain name among all that stand for it: capitals become small letters, wide
  and other variants of characters become the plain ones, characters that do not count go away, and
  what is left is in composed form.  A character that is neither of these nor allowed has no place in
  a domain name.
-/

namespace Switchyard.Net.Idna

open Text

/-- Characters that stand for one other. -/
def singles : List (Nat × Nat) := tablePairs 0 (tableNumbers singleText)

/-- Runs of characters that stand for one other each. -/
def runs : List (Nat × Nat × Nat × Nat) := tableQuadruples 0 (tableNumbers runText)

/-- Characters that stand for several others. -/
def severals : List (Nat × List Nat) :=
  let numbers := tableNumbers severalText
  tableRows 0 numbers.length numbers

/-- The characters that may stand in a domain name. -/
def allowed : CodeSet := ⟨runningSums 0 (tableNumbers validText)⟩

/-- The characters that do not count. -/
def ignored : CodeSet := ⟨runningSums 0 (tableNumbers ignoredText)⟩

/-- The characters that belong to the one before them. -/
def marks : CodeSet := ⟨runningSums 0 (tableNumbers markText)⟩

/-- What a character in a run stands for: all of a run lie as far from what they stand for as the
    first. -/
def runTarget? (n : Nat) : Option Nat :=
  (runs.find? fun (first, step, count, _) =>
    first ≤ n && n < first + step * count && (n - first) % step = 0).map
      fun (first, _, _, target) => target + (n - first)

/-- What a character stands for, if it has a place in a domain name at all. -/
def meaning? (c : Char) : Option (List Char) :=
  if allowed.contains c then some [c]
  else if ignored.contains c then some []
  else match (singles.lookup c.toNat).or (runTarget? c.toNat) with
    | some n => some [Char.ofNat n]
    | none => (severals.lookup c.toNat).map (·.map Char.ofNat)

/-- The spelling of a name, if it has only characters of domain names. -/
def spelling? (cs : List Char) : Option (List Char) :=
  (cs.mapM meaning?).map fun meanings => Canonical.compose meanings.flatten

/-- Is the text already spelled the one way? -/
def isSpelled (cs : List Char) : Bool := cs.all allowed.contains && Canonical.compose cs = cs

end Switchyard.Net.Idna
