import Switchyard.Number.Whole
import Switchyard.Text.Split

/-!
  IPv4 addresses: the strict dotted form, and the looser forms that a URL may use.
-/

namespace Switchyard.Net

/-- An address as its four bytes. -/
structure Ipv4 where
  a : Nat
  b : Nat
  c : Nat
  d : Nat
deriving DecidableEq, Repr

namespace Ipv4

/-- The address of a 32-bit number. -/
def ofNat (n : Nat) : Ipv4 := ⟨n / 0x1000000 % 256, n / 0x10000 % 256, n / 0x100 % 256, n % 256⟩

/-- The dotted text of an address. -/
def text (i : Ipv4) : String :=
  String.intercalate "." ([i.a, i.b, i.c, i.d].map Number.natText)

/-! ## The strict form -/

/-- One byte in decimal without leading zeros, in front of a text. -/
def readByte? (cs : List Char) : Option (Nat × List Char) :=
  let digits := cs.takeWhile fun c => (Number.digitValue? c).isSome
  let rest := cs.dropWhile fun c => (Number.digitValue? c).isSome
  if 3 < digits.length || (1 < digits.length && digits.head? = some '0') then none
  else ((Number.readNat 10 digits).filter (· < 256)).map fun n => (n, rest)

/-- A byte behind a dot. -/
def readDotByte? : List Char → Option (Nat × List Char)
  | '.' :: cs => readByte? cs
  | _ => none

/-- Four bytes between dots, in front of a text. -/
def read? (cs : List Char) : Option (Ipv4 × List Char) := do
  let (a, cs) ← readByte? cs
  let (b, cs) ← readDotByte? cs
  let (c, cs) ← readDotByte? cs
  let (d, cs) ← readDotByte? cs
  some (⟨a, b, c, d⟩, cs)

/-! ## The forms of URLs -/

/-- A number in base ten, in base eight behind a zero, or in base sixteen behind `0x`. -/
def readNumber? (cs : List Char) : Option Nat :=
  match cs with
  | [] => none
  | '0' :: 'x' :: rest | '0' :: 'X' :: rest => Number.readDigits 16 0 rest
  | '0' :: rest => Number.readDigits 8 0 rest
  | _ => Number.readDigits 10 0 cs

/-- The parts of a host name; the root's empty part at the end does not count. -/
def hostParts (s : String) : List (List Char) :=
  let parts := Text.splitOn '.' s.toList
  if parts.getLast? = some [] then parts.dropLast else parts

/-- Must a host name be an address, because its last part is a number? -/
def endsInNumber (s : String) : Bool :=
  match (hostParts s).getLast? with
  | none => false
  | some last =>
    (!last.isEmpty && last.all fun c => (Number.digitValue? c).isSome) || (readNumber? last).isSome

/-- The address of a host name: at most four numbers, each of one byte but the last, which fills the
    bytes that are left. -/
def ofHost? (s : String) : Option Ipv4 :=
  let parts := hostParts s
  if 4 < parts.length then none
  else do
    let numbers ← parts.mapM readNumber?
    let last ← numbers.getLast?
    let bytes := numbers.dropLast
    if Nat.pow 256 (4 - bytes.length) ≤ last || bytes.any (255 < ·) then none
    else some (ofNat (bytes.zipIdx.foldl (fun sum (n, i) => sum + n * Nat.pow 256 (3 - i)) last))

end Ipv4
end Switchyard.Net
