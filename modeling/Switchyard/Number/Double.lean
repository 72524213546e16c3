import Switchyard.Number.Shortest

/-!
  Doubles as text.  Both written forms show the shortest digits that read back; they differ in when
  an exponent is used and in how whole numbers look.
-/

namespace Switchyard.Number

/-- What the bits of a double say. -/
inductive DoubleView where
  | nan
  | infinite (negative : Bool)
  /-- A finite number: its sign and its magnitude. -/
  | finite (negative : Bool) (magnitude : Decimal)

/-- Read the bits of a double: sign, eleven bits of exponent, fifty-two of fraction. -/
def DoubleView.ofBits (bits : Nat) : DoubleView :=
  let negative := bits / 0x8000000000000000 % 2 = 1
  let exponent : Nat := bits / 0x10000000000000 % 0x800
  let fraction : Nat := bits % 0x10000000000000
  if exponent = 2047 then
    if fraction = 0 then .infinite negative else .nan
  else if exponent = 0 then
    if fraction = 0 then .finite negative ⟨0, 0⟩
    else .finite negative (Span.ofBinary fraction (-1074) false).shortest
  else
    .finite negative
      (Span.ofBinary (0x10000000000000 + fraction) ((exponent : Int) - 1075)
        (fraction = 0 && 1 < exponent)).shortest

/-- Read a double. -/
def DoubleView.of (x : Float) : DoubleView := .ofBits x.toBits.toNat

/-- The digits of a whole number in base ten. -/
def decimalDigits (n : Nat) : List Char := Nat.toDigits 10 n

/-- Digits in positional notation: no exponent, no point in a whole number. -/
def Decimal.positional (d : Decimal) : List Char :=
  let ds := decimalDigits d.digits
  if 0 ≤ d.exponent then
    if d.digits = 0 then ['0'] else ds ++ List.replicate d.exponent.toNat '0'
  else
    let places := (-d.exponent).toNat
    let padded := List.replicate (places + 1 - ds.length) '0' ++ ds
    padded.take (padded.length - places) ++ '.' :: padded.drop (padded.length - places)

/-- The sign in front of a number. -/
def signText (negative : Bool) : List Char := if negative then ['-'] else []

/-- Positional text of a double: never an exponent, and `NaN`, `inf`, `-inf`, `-0`. -/
def plainText (x : Float) : String :=
  String.ofList <| match DoubleView.of x with
    | .nan => "NaN".toList
    | .infinite negative => signText negative ++ "inf".toList
    | .finite negative d => signText negative ++ d.positional

/-- When the text of a double has an exponent, and how the exponent is written. -/
structure ExponentStyle where
  /-- The lowest power of ten of a first digit that is written in place. -/
  least : Int
  /-- The highest such power. -/
  greatest : Int
  /-- Has an exponent that is not negative a sign? -/
  plus : Bool

/-- In data documents numbers are written in place from the fifth place after the point to the
    sixteenth before it, and exponents are signed. -/
def ExponentStyle.data : ExponentStyle := ⟨-5, 15, true⟩

/-- In texts for developers one place less after the point is written in place, and only negative
    exponents are signed. -/
def ExponentStyle.developer : ExponentStyle := ⟨-4, 15, false⟩

/-- A finite number: in place with a point, or with an exponent. -/
def Decimal.scientific (style : ExponentStyle) (d : Decimal) : List Char :=
  let ds := decimalDigits d.digits
  let lead : Int := d.exponent + ds.length - 1
  if d.digits = 0 then "0.0".toList
  else if style.least ≤ lead && lead ≤ style.greatest then
    d.positional ++ (if 0 ≤ d.exponent then ['.', '0'] else [])
  else
    let mantissa := match ds with
      | [] => []
      | [c] => [c]
      | c :: rest => c :: '.' :: rest
    let sign := if lead < 0 then ['-'] else if style.plus then ['+'] else []
    mantissa ++ 'e' :: sign ++ decimalDigits lead.natAbs

/-- The text of a double in a data document, if it has one there: only finite numbers do. -/
def dataText? (x : Float) : Option String :=
  match DoubleView.of x with
  | .finite negative d => some (String.ofList (signText negative ++ d.scientific .data))
  | _ => none

/-- The text of a double for a developer. -/
def developerText (x : Float) : String :=
  match DoubleView.of x with
  | .finite negative d => String.ofList (signText negative ++ d.scientific .developer)
  | _ => plainText x

/-- The double nearest to `m · 10 ^ e`, with the far ends cut off before any power is taken. -/
def ofDecimal (negative : Bool) (m : Nat) (e : Int) : Float :=
  let lead : Int := e + (decimalDigits m).length
  let magnitude : Float :=
    if m = 0 || lead < -400 then 0.0
    else if 400 < lead then 1.0 / 0.0
    else if 0 ≤ e then Float.ofScientific m false e.toNat
    else Float.ofScientific m true (-e).toNat
  if negative then -magnitude else magnitude

end Switchyard.Number
