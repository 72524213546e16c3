/-!
  The fewest decimal digits that read back as a given binary number.

  A positive double is `m · 2 ^ q`.  The reals that round to it form an interval around it, whose
  ends belong to it exactly when `m` is even.  On the grid of multiples of `10 ^ k` only the two
  neighbours of the value matter: if any grid point lies in the interval, one of them does.  The
  coarsest grid with a hit gives the fewest digits, and of two hits the nearer is taken.
-/

namespace Switchyard.Number

/-- A positive value with the interval of reals that round to it, over one denominator. -/
structure Span where
  /-- The lower end of the interval. -/
  low : Nat
  /-- The value itself. -/
  mid : Nat
  /-- The upper end of the interval. -/
  high : Nat
  /-- The common denominator. -/
  den : Nat
  /-- Do the ends belong to the interval? -/
  closed : Bool

namespace Span

/-- The interval of `m · 2 ^ q`; `narrow` says that the gap below is half the gap above. -/
def ofBinary (m : Nat) (q : Int) (narrow : Bool) : Span :=
  let below := if narrow then 1 else 2
  let up := Nat.pow 2 (q - 2).toNat
  { low := (4 * m - below) * up
    mid := 4 * m * up
    high := (4 * m + 2) * up
    den := Nat.pow 2 (2 - q).toNat
    closed := m % 2 = 0 }

/-- The same interval measured in units of `10 ^ k`. -/
def rescale (s : Span) (k : Int) : Span :=
  let up := Nat.pow 10 (-k).toNat
  { s with low := s.low * up, mid := s.mid * up, high := s.high * up, den := s.den * Nat.pow 10 k.toNat }

/-- Does the whole number lie in the interval? -/
def holds (s : Span) (x : Nat) : Bool :=
  if s.closed then s.low ≤ x * s.den && x * s.den ≤ s.high
  else s.low < x * s.den && x * s.den < s.high

/-- The whole number nearest to the value among those of its two neighbours that lie in the
    interval; an exact tie goes to the even one. -/
def nearest? (s : Span) : Option Nat :=
  let down := s.mid / s.den
  let rest := s.mid - down * s.den
  match s.holds down, s.holds (down + 1) with
  | true, true =>
    if 2 * rest < s.den || (2 * rest = s.den && down % 2 = 0) then some down else some (down + 1)
  | true, false => some down
  | false, true => some (down + 1)
  | false, false => none

/-- An exponent not below that of the value's first decimal digit. -/
def leadingExponent (s : Span) : Int :=
  if s.den ≤ s.mid then (Nat.toDigits 10 (s.mid / s.den)).length - 1
  else 1 - (Nat.toDigits 10 (s.den / s.mid)).length

end Span

/-- Decimal digits and a power of ten: the number is `digits · 10 ^ exponent`. -/
structure Decimal where
  /-- The digits, read as a whole number. -/
  digits : Nat
  /-- The power of ten they are multiplied by. -/
  exponent : Int
deriving DecidableEq, Repr

/-- The shortest decimal in the interval: the coarsest grid that has a point there. -/
def Span.shortest (s : Span) : Decimal :=
  let top := s.leadingExponent
  ((List.range 19).findSome? fun i =>
      let k : Int := top - (i : Nat)
      ((s.rescale k).nearest?).map fun d => ⟨d, k⟩).getD ⟨0, 0⟩

end Switchyard.Number
