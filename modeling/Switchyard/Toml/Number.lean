import Switchyard.Toml.Value
import Switchyard.Toml.Text
import Switchyard.Number.Double

/-!
  Numbers in a TOML document.  Integers fit a signed word of 64 bits; a double is the one nearest to
  its decimal text, and a text beyond the greatest double is refused unless it is negative.
-/

namespace Switchyard.Toml

/-- A digit of a base. -/
def isDigitIn (base : Nat) (c : Char) : Bool := (Number.digitIn? base c).isSome

/-- The digits that follow a digit, each perhaps behind a single underscore. -/
def moreDigits (base : Nat) : List Char → List Char × List Char
  | [] => ([], [])
  | '_' :: d :: cs =>
    if isDigitIn base d then
      let (ds, rest) := moreDigits base cs
      (d :: ds, rest)
    else ([], '_' :: d :: cs)
  | d :: cs =>
    if isDigitIn base d then
      let (ds, rest) := moreDigits base cs
      (d :: ds, rest)
    else ([], d :: cs)

/-- One or more digits. -/
def readDigits (base : Nat) : Reader (List Char)
  | [] => none
  | d :: cs =>
    if isDigitIn base d then
      let (ds, rest) := moreDigits base cs
      some (d :: ds, rest)
    else none

/-- One or more decimal digits without a zero in front of others. -/
def readWhole : Reader (List Char)
  | '0' :: cs => some (['0'], cs)
  | cs => readDigits 10 cs

/-- A sign that may be missing: is it a minus? -/
def readSign : List Char → Bool × List Char
  | '-' :: cs => (true, cs)
  | '+' :: cs => (false, cs)
  | cs => (false, cs)

/-- The least and the greatest integer. -/
def integerRange : Int × Int := (-0x8000000000000000, 0x7FFFFFFFFFFFFFFF)

/-- An integer, if it is within the range. -/
def integer? (negative : Bool) (base : Nat) (digits : List Char) : Option Value :=
  (Number.readNat base digits).bind fun n =>
    let i : Int := if negative then -n else n
    if integerRange.1 ≤ i ∧ i ≤ integerRange.2 then some (.integer i) else none

/-- A double, if it is not beyond the greatest one. -/
def float? (negative : Bool) (digits : List Char) (exponent : Int) : Option Value :=
  (Number.readNat 10 digits).bind fun m =>
    let x := Number.ofDecimal negative m exponent
    if x == 1.0 / 0.0 then none else some (.float x)

/-- The part of a number behind the letter of its exponent. -/
def readExponent : Reader Int := fun cs => do
  let (negative, cs) := readSign cs
  let (digits, rest) ← readDigits 10 cs
  let e ← Number.readNat 10 digits
  some (if negative then -e else e, rest)

/-- Is it the letter of an exponent? -/
def isExponentMark (c : Char) : Bool := c = 'e' || c = 'E'

/-- A number behind its sign: decimal, with a fraction and an exponent where they are. -/
def readDecimal (negative : Bool) : Reader Value := fun cs => do
  let (whole, rest) ← readWhole cs
  let (point, fraction, rest) ← match rest with
    | '.' :: rest => (readDigits 10 rest).map fun (ds, rest) => (true, ds, rest)
    | rest => some (false, [], rest)
  let scale : Int := -fraction.length
  match rest with
  | c :: tail =>
    if isExponentMark c then
      let (e, rest) ← readExponent tail
      let v ← float? negative (whole ++ fraction) (scale + e)
      some (v, rest)
    else
      let v ← if point then float? negative (whole ++ fraction) scale else integer? negative 10 whole
      some (v, rest)
  | [] =>
    let v ← if point then float? negative (whole ++ fraction) scale else integer? negative 10 whole
    some (v, [])

/-- A whole number in another base. -/
def readBased (base : Nat) : Reader Value := fun cs => do
  let (digits, rest) ← readDigits base cs
  let v ← integer? false base digits
  some (v, rest)

/-- A number of any form. -/
def readNumber : Reader Value
  | '0' :: 'x' :: cs => readBased 16 cs
  | '0' :: 'o' :: cs => readBased 8 cs
  | '0' :: 'b' :: cs => readBased 2 cs
  | cs =>
    match readSign cs with
    | (negative, 'i' :: 'n' :: 'f' :: rest) =>
      some (.float (if negative then -1.0 / 0.0 else 1.0 / 0.0), rest)
    | (_, 'n' :: 'a' :: 'n' :: rest) => some (.float (0.0 / 0.0), rest)
    | (negative, rest) => readDecimal negative rest

end Switchyard.Toml
