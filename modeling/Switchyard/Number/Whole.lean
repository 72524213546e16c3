/-!
  Reading whole numbers from text, with the bound of a machine word where one applies.
-/

namespace Switchyard.Number

/-- The value of a decimal digit. -/
def digitValue? (c : Char) : Option Nat :=
  if '0' ≤ c && c ≤ '9' then some (c.toNat - '0'.toNat) else none

/-- The value of a digit in a base up to sixteen, either case. -/
def digitIn? (base : Nat) (c : Char) : Option Nat :=
  let v? :=
    if '0' ≤ c && c ≤ '9' then some (c.toNat - '0'.toNat)
    else if 'a' ≤ c && c ≤ 'f' then some (c.toNat - 'a'.toNat + 10)
    else if 'A' ≤ c && c ≤ 'F' then some (c.toNat - 'A'.toNat + 10)
    else none
  v?.filter (· < base)

/-- Digits added to a value read so far, most significant first; `none` on anything else. -/
def readDigits (base : Nat) (start : Nat) : List Char → Option Nat
  | [] => some start
  | c :: cs => (digitIn? base c).bind fun d => readDigits base (start * base + d) cs

/-- A number in a base: at least one digit and nothing else. -/
def readNat (base : Nat) (cs : List Char) : Option Nat :=
  if cs.isEmpty then none else readDigits base 0 cs

/-- The largest value of a 64-bit word. -/
def maxWord : Nat := 0xFFFFFFFFFFFFFFFF

/-- A 64-bit word in decimal: an optional plus sign, then digits; leading zeros are allowed. -/
def readWord (s : String) : Option Nat :=
  let digits := match s.toList with
    | '+' :: cs => cs
    | cs => cs
  (readNat 10 digits).filter (· ≤ maxWord)

/-- The text of a whole number in base ten. -/
def natText (n : Nat) : String := String.ofList (Nat.toDigits 10 n)

/-- The text of an integer in base ten. -/
def intText (i : Int) : String := if i < 0 then "-" ++ natText i.natAbs else natText i.natAbs

end Switchyard.Number
