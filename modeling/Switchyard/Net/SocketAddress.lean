import Switchyard.Net.Ipv6

/-!
  Socket addresses: an IP address with the number of a TCP endpoint on it.
-/

namespace Switchyard.Net

/-- Where a listener is bound. -/
inductive SocketAddress where
  | v4 (ip : Ipv4) (endpoint : Nat)
  | v6 (ip : Ipv6) (scope endpoint : Nat)
deriving DecidableEq, Repr

namespace SocketAddress

/-- A number in base ten below a bound, behind a given character, in front of a text. -/
def readBehind? (mark : Char) (bound : Nat) : List Char → Option (Nat × List Char)
  | [] => none
  | c :: cs =>
    if c = mark then
      let digits := cs.takeWhile fun c => (Number.digitValue? c).isSome
      ((Number.readNat 10 digits).filter (· < bound)).map fun n => (n, cs.drop digits.length)
    else none

/-- A dotted address with its endpoint. -/
def readV4? (cs : List Char) : Option (SocketAddress × List Char) := do
  let (ip, cs) ← Ipv4.read? cs
  let (endpoint, cs) ← readBehind? ':' 0x10000 cs
  some (v4 ip endpoint, cs)

/-- A bracketed address, perhaps with a scope, and its endpoint. -/
def readV6? : List Char → Option (SocketAddress × List Char)
  | '[' :: cs => do
    let (ip, cs) ← Ipv6.read? cs
    let (scope, cs) := (readBehind? '%' 0x100000000 cs).getD (0, cs)
    match cs with
    | ']' :: cs =>
      let (endpoint, cs) ← readBehind? ':' 0x10000 cs
      some (v6 ip scope endpoint, cs)
    | _ => none
  | _ => none

/-- Read a socket address. -/
def parse? (s : String) : Option SocketAddress :=
  match (readV4? s.toList).or (readV6? s.toList) with
  | some (a, []) => some a
  | _ => none

end SocketAddress
end Switchyard.Net
