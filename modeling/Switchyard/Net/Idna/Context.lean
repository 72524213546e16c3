import Switchyard.Net.Idna.ContextTable
import Switchyard.Text.Canonical

/-!
  How the characters of a domain name may follow each other.

  The two joiners, which cannot be seen, stand only where they change how their neighbours look.  In
  a name with characters written from right to left, every label is of one direction: it begins and
  ends with a character of that direction, and no number in it runs the other way.
-/

namespace Switchyard.Net.Idna

open Text

/-! ## Joiners -/

/-- How a character joins its neighbours. -/
inductive Joining where
  | both
  | causing
  | left
  | right
  | transparent
  | none
deriving DecidableEq, Repr

/-- The ways of joining, by their numbers. -/
def Joining.ofNumber : Nat → Joining
  | 0 => .causing
  | 1 => .both
  | 2 => .left
  | 3 => .right
  | 4 => .transparent
  | _ => .none

/-- Characters that join. -/
def joinings : List (Nat × Nat × Nat) := tableTriples 0 (tableNumbers joiningText)

/-- How a character joins. -/
def joining (c : Char) : Joining :=
  ((joinings.find? fun (start, count, _) => start ≤ c.toNat && c.toNat < start + count).map
    fun (_, _, way) => Joining.ofNumber way).getD .none

/-- The joiner that keeps its neighbours apart, and the one that brings them together. -/
def nonJoiner : Char := Char.ofNat 0x200C
def joiner : Char := Char.ofNat 0x200D

/-- The class of the marks that silence a vowel. -/
def silencingClass : Nat := 9

/-- Does the nearest character that matters for joining, join this way? -/
def nearestJoins (ways : List Joining) (cs : List Char) : Bool :=
  ((cs.map joining).find? (· ≠ .transparent)).any ways.contains

/-- May a joiner stand between these?  What is before it is given from its end on. -/
def joinerFits (c : Char) (before after : List Char) : Bool :=
  (before.head?.any fun b => Canonical.markClass b.toNat = silencingClass) ||
    (c = nonJoiner && nearestJoins [.left, .both] before && nearestJoins [.right, .both] after)

/-- Do all joiners stand where they may?  `before` is what was passed, the last first. -/
def joinersFit (before : List Char) : List Char → Bool
  | [] => true
  | c :: cs =>
    (!(c = nonJoiner || c = joiner) || joinerFits c before cs) && joinersFit (c :: before) cs

/-! ## Direction -/

/-- What a character means for the direction of a text. -/
inductive Direction where
  | leftToRight
  | rightToLeft
  | rightToLeftLetter
  | rightToLeftNumber
  | number
  | numberSign
  | numberSeparator
  | numberEnd
  | neutral
  | boundary
  | mark
  | other
deriving DecidableEq, Repr

namespace Direction

/-- The directions by their numbers. -/
def ofNumber : Nat → Direction
  | 0 => .leftToRight
  | 1 => .rightToLeft
  | 2 => .rightToLeftLetter
  | 3 => .rightToLeftNumber
  | 4 => .number
  | 5 => .numberSign
  | 6 => .numberSeparator
  | 7 => .numberEnd
  | 8 => .neutral
  | 9 => .boundary
  | 10 => .mark
  | _ => .other

/-- Where the direction changes. -/
def changes : List (Nat × Nat) := tablePairs 0 (tableNumbers directionText)

/-- The direction of a character: that of the last change at or before it. -/
def ofChar (c : Char) : Direction :=
  ofNumber (((changes.takeWhile fun (start, _) => start ≤ c.toNat).getLast?.map (·.2)).getD 0)

/-- Does it make the text one that is written from right to left? -/
def isRightToLeft (d : Direction) : Bool :=
  [rightToLeft, rightToLeftLetter, rightToLeftNumber].contains d

/-- Those that may stand anywhere. -/
def common : List Direction :=
  [number, numberSign, numberSeparator, numberEnd, neutral, boundary, mark]

/-- Is a label of one direction?  Marks at its end do not count. -/
def labelAgrees (label : List Direction) : Bool :=
  let trimmed := (label.reverse.dropWhile (· = mark)).reverse
  match label with
  | [] => true
  | .leftToRight :: _ =>
    trimmed.all (leftToRight :: common).contains &&
      trimmed.getLast?.all [leftToRight, number].contains
  | .rightToLeft :: _ | .rightToLeftLetter :: _ =>
    trimmed.all (rightToLeft :: rightToLeftLetter :: rightToLeftNumber :: common).contains &&
      trimmed.getLast?.all [rightToLeft, rightToLeftLetter, rightToLeftNumber, number].contains &&
      !(trimmed.contains number && trimmed.contains rightToLeftNumber)
  | _ :: _ => false

end Direction

/-- Are all labels of one direction each, where any character is written from right to left? -/
def directionsAgree (labels : List (List Char)) : Bool :=
  let labels := labels.map (·.map Direction.ofChar)
  !(labels.any (·.any (·.isRightToLeft))) || labels.all Direction.labelAgrees

end Switchyard.Net.Idna
