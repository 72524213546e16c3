import Switchyard.Bytes
import Switchyard.Net.Idna.Name

/-!
  Domain names in URLs.
-/

namespace Switchyard.Net.DomainName

/-- A character that no domain name of a URL holds. -/
def isForbidden (c : Char) : Bool :=
  c.toNat ≤ 0x20 || c.toNat = 0x7F || "#%/:<>?@[\\]^|".toList.contains c

/-- A letter in lower case; other characters stay. -/
def lowerChar (c : Char) : Char :=
  if 'A' ≤ c && c ≤ 'Z' then Char.ofNat (c.toNat + 32) else c

/-- The form of a name that goes over the wire, if there is one.  Only a name with characters beyond
    the basic alphabet, or with a label that stands for such, takes more than small letters. -/
def toAscii? (cs : List Char) : Option String :=
  let small := cs.map lowerChar
  let plain := small.all (·.toNat < 0x80) &&
    !(Text.splitOn '.' small).any fun label => Idna.labelMark.isPrefixOf label
  ((if plain then some small else Idna.write? cs).filter (·.all fun c => !isForbidden c)).map
    String.ofList

/-- Replace every percent sign with two digits in base sixteen by the byte they stand for. -/
def percentDecode : Bytes → Bytes
  | 0x25 :: a :: b :: rest =>
    match Number.digitIn? 16 (Char.ofNat a.toNat), Number.digitIn? 16 (Char.ofNat b.toNat) with
    | some x, some y => UInt8.ofNat (x * 16 + y) :: percentDecode rest
    | _, _ => 0x25 :: percentDecode (a :: b :: rest)
  | b :: rest => b :: percentDecode rest
  | [] => []

end Switchyard.Net.DomainName
