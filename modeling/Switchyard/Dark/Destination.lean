import Switchyard.Dark.Basic
import Switchyard.Http.Authority
import Switchyard.Net.Url

/-!
  Destinations of dark traffic: a host with an endpoint number, or a URL of the plain scheme.
-/

namespace Switchyard.Dark

/-- Where copies go: a host and the number of the TCP endpoint on it. -/
structure Destination where
  host : String
  endpoint : Nat
deriving DecidableEq, Repr

namespace Destination

/-- The endpoint where none is given. -/
def defaultEndpoint : Nat := 80

/-- The authority that requests to the destination name. -/
def authority (d : Destination) : String := d.host ++ ":" ++ Number.natText d.endpoint

/-- Does the text name a scheme? -/
def hasScheme : List Char → Bool
  | ':' :: '/' :: '/' :: _ => true
  | _ :: cs => hasScheme cs
  | [] => false

/-- Read a destination; the reason where it is none. -/
def read (s : String) : Except String Destination :=
  match Net.Url.parse (if hasScheme s.toList then s else "http://" ++ s) with
  | .error e => .error e.message
  | .ok url =>
    if url.scheme ≠ "http" then .error ("unsupported scheme " ++ Text.quote url.scheme)
    else match url.host? with
      | none => .error "missing host"
      | some host =>
        let d : Destination := ⟨host.text, url.endpoint?.getD defaultEndpoint⟩
        match Http.Authority.check d.authority with
        | .ok () => .ok d
        | .error e => .error e.message

/-- Read a destination. -/
def parse (s : String) : Except Error Destination :=
  match read s with
  | .ok d => .ok d
  | .error reason => .error (.invalidDestination s reason)

end Destination
end Switchyard.Dark
