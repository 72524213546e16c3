import Switchyard.Text.CanonicalTable
import Switchyard.Text.NumberTable

/-!
  The composed form of a text: every character is taken apart into a base and its marks, the marks of
  a base are put in order, and what can be put together again is.  Texts that differ only in how
  marked characters are written have one composed form.
-/

namespace Switchyard.Text.Canonical

/-- The class of every mark that has one. -/
def classes : List (Nat × Nat × Nat) := tableTriples 0 (tableNumbers classText)

/-- The characters made of two others. -/
def pairs : List (Nat × Nat × Nat) := tableTriples 0 (tableNumbers pairText)

/-- The class of a character; zero is a base. -/
def markClass (n : Nat) : Nat :=
  ((classes.find? fun (start, count, _) => start ≤ n && n < start + count).map (·.2.2)).getD 0

/-! ## Syllables

The syllables of one script are made of a leading, a vowel and perhaps a trailing part by rule and not by
a table. -/

/-- The first syllable, and the first leading, vowel and trailing part; there is no trailing part of
    number zero. -/
def syllableBase : Nat := 0xAC00
def leadBase : Nat := 0x1100
def vowelBase : Nat := 0x1161
def trailBase : Nat := 0x11A7

/-- The numbers of leading, vowel and trailing parts. -/
def leadCount : Nat := 19
def vowelCount : Nat := 21
def trailCount : Nat := 28

/-- The parts of a syllable. -/
def splitSyllable? (n : Nat) : Option (List Nat) :=
  if syllableBase ≤ n && n < syllableBase + leadCount * vowelCount * trailCount then
    let i := n - syllableBase
    let trail := i % trailCount
    some ([leadBase + i / (vowelCount * trailCount), vowelBase + i / trailCount % vowelCount] ++
      if trail = 0 then [] else [trailBase + trail])
  else none

/-- A syllable of two parts, or one of a shorter syllable and a trailing part. -/
def joinSyllable? (a b : Nat) : Option Nat :=
  if leadBase ≤ a && a < leadBase + leadCount && vowelBase ≤ b && b < vowelBase + vowelCount then
    some (syllableBase + ((a - leadBase) * vowelCount + (b - vowelBase)) * trailCount)
  else if syllableBase ≤ a && a < syllableBase + leadCount * vowelCount * trailCount &&
      (a - syllableBase) % trailCount = 0 && trailBase < b && b < trailBase + trailCount then
    some (a + (b - trailBase))
  else none

/-! ## Taking apart -/

/-- The longest chain of characters each of which is the base of the one before. -/
def maxNesting : Nat := 4

/-- The base and the marks of a character. -/
def split : (nesting : Nat) → Nat → List Nat
  | 0, n => [n]
  | nesting + 1, n =>
    match splitSyllable? n with
    | some parts => parts
    | none =>
      match pairs.find? (·.1 = n) with
      | some (_, a, b) => split nesting a ++ split nesting b
      | none => [n]

/-- Put a mark behind those of the same or a lower class. -/
def placeMark (n : Nat) : List Nat → List Nat
  | [] => [n]
  | m :: rest => if markClass n < markClass m then n :: m :: rest else m :: placeMark n rest

/-- The marks behind a base in order; `marks` are those since the last base. -/
def orderFrom (marks : List Nat) : List Nat → List Nat
  | [] => marks
  | n :: rest =>
    if markClass n = 0 then marks ++ n :: orderFrom [] rest
    else orderFrom (placeMark n marks) rest

/-! ## Putting together -/

/-- The character made of two others. -/
def join? (a b : Nat) : Option Nat :=
  (joinSyllable? a b).or ((pairs.find? fun (_, x, y) => x = a && y = b).map (·.1))

/-- Put together from a base on: `passed` are the marks that could not be joined to it, the last
    first.  A mark is hidden from the base by one of its own class or a higher one. -/
def composeFrom (base : Nat) (passed : List Nat) : List Nat → List Nat
  | [] => base :: passed.reverse
  | n :: rest =>
    let open_ := match passed with
      | [] => true
      | last :: _ => markClass last < markClass n
    match if open_ then join? base n else none with
    | some whole => composeFrom whole passed rest
    | none =>
      if markClass n = 0 then base :: passed.reverse ++ composeFrom n [] rest
      else composeFrom base (n :: passed) rest

/-- Put together what can be.  Marks in front of the first base stay as they are. -/
def composeAll : List Nat → List Nat
  | [] => []
  | n :: rest => if markClass n = 0 then composeFrom n [] rest else n :: composeAll rest

/-- The composed form of a text. -/
def compose (cs : List Char) : List Char :=
  (composeAll (orderFrom [] (cs.flatMap fun c => split maxNesting c.toNat))).map Char.ofNat

end Switchyard.Text.Canonical
