import Switchyard.Http.Message
import Switchyard.Rpc.Call

/-!
  How requests and replies are shown in marks and by describing handlers.
-/

namespace Switchyard.Script

/-- The longest byte sequence that is shown in full. -/
def shownInFull : Nat := 4096

/-- A checksum of bytes. -/
def checksum (bs : Bytes) : Nat := bs.foldl (fun h b => (h * 31 + b.toNat) % 1000000007) 0

/-- Two digits in base sixteen for every byte. -/
def hexText (bs : Bytes) : String :=
  String.ofList (bs.flatMap fun b => [Nat.digitChar (b.toNat / 16), Nat.digitChar (b.toNat % 16)])

/-- Bytes as text if they are one, else in base sixteen; a long sequence by its length and
    checksum. -/
def shownBytes (bs : Bytes) : Json :=
  if shownInFull < bs.length then .object [("len", .nat bs.length), ("sum", .nat (checksum bs))]
  else match Bytes.string? bs with
    | some s => .string s
    | none => .object [("hex", .string (hexText bs))]

/-- Headers sorted by name. -/
def shownHeaders (h : Http.Headers) : Json :=
  .array (h.sorted.map fun (name, value) => .array [.string name, shownBytes value])

/-- Bound values in order. -/
def shownParams (p : Route.Params) : Json :=
  .array (p.entries.map fun (name, value) => .array [.string name, .string value])

/-- The headers of a call. -/
def shownCallHeaders (c : Rpc.Call) : Json := .object (c.headers.map fun (k, v) => (k, .string v))

/-- The answer to a call. -/
def shownReply : Rpc.Reply → Json
  | .reply payload => .object [("reply", shownBytes payload)]
  | .exception name message => .object [("exception", .string name), ("text", .string message)]

end Switchyard.Script
