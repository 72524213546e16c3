import Switchyard.Net.SocketAddress
import Switchyard.Text.Quoted

/-!
  Which listeners can be open together.  A listener needs an address of this machine, and of two with
  the same number none may cover the other's address; the number zero asks for any that is free.
-/

namespace Switchyard.Net

/-- Why a listener cannot be opened. -/
inductive ListenFault where
  /-- Another listener has the address. -/
  | inUse
  /-- It is the address of another machine. -/
  | elsewhere
deriving DecidableEq, Repr

namespace ListenFault

/-- The number of a fault with the operating system. -/
def code : ListenFault → String
  | .inUse => "98"
  | .elsewhere => "99"

/-- The kind of a fault as a developer sees it. -/
def kind : ListenFault → String
  | .inUse => "AddrInUse"
  | .elsewhere => "AddrNotAvailable"

/-- What the operating system says about a fault. -/
def reason : ListenFault → String
  | .inUse => "Address already in use"
  | .elsewhere => "Cannot assign requested address"

/-- The wording of a fault. -/
def message (f : ListenFault) : String := f.reason ++ " (os error " ++ f.code ++ ")"

/-- A fault as a developer sees it. -/
def debug (f : ListenFault) : String :=
  Text.recordText "Os" [("code", f.code), ("kind", f.kind), ("message", Text.quote f.reason)]

end ListenFault

namespace SocketAddress

/-- The number of the endpoint. -/
def endpoint : SocketAddress → Nat
  | v4 _ endpoint => endpoint
  | v6 _ _ endpoint => endpoint

/-- Does the address stand for all of the machine? -/
def coversMachine : SocketAddress → Bool
  | v4 ip _ => ip = ⟨0, 0, 0, 0⟩
  | v6 ip _ _ => ip.groups.all (· = 0)

/-- Can only the machine itself get at the address? -/
def isLoopback : SocketAddress → Bool
  | v4 ip _ => ip.a = 127
  | v6 ip _ _ => ip.groups = [0, 0, 0, 0, 0, 0, 0, 1]

/-- Do listeners at two addresses get in each other's way? -/
def clashes (a b : SocketAddress) : Bool :=
  a.endpoint = b.endpoint && a.endpoint ≠ 0 && (a = b || a.coversMachine || b.coversMachine)

/-- What keeps a listener from being opened at an address, beside others that are open. -/
def listenFault? (others : List SocketAddress) (a : SocketAddress) : Option ListenFault :=
  if !a.coversMachine && !a.isLoopback then some .elsewhere
  else if others.any a.clashes then some .inUse
  else none

/-- What keeps listeners from being opened one after the other. -/
def listenFaults? (others : List SocketAddress) : List SocketAddress → Option ListenFault
  | [] => none
  | a :: rest => (a.listenFault? others).or (listenFaults? (a :: others) rest)

end SocketAddress
end Switchyard.Net
