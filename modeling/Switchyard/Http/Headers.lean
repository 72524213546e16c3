import Switchyard.Bytes
import Switchyard.Http.Token

/-!
  Header fields.  A name may occur several times; the values under one name keep their order, and
  the order between different names does not matter.
-/

namespace Switchyard.Http

/-- Header fields in the order in which they were added; names are in lower case. -/
structure Headers where
  fields : List (String × Bytes) := []
deriving DecidableEq

namespace Headers

/-- Add a value under a name, after those that are there. -/
def append (h : Headers) (name : String) (value : Bytes) : Headers :=
  ⟨h.fields ++ [(name, value)]⟩

/-- Remove all values under a name. -/
def remove (h : Headers) (name : String) : Headers :=
  ⟨h.fields.filter (·.1 ≠ name)⟩

/-- Replace all values under a name by one. -/
def insert (h : Headers) (name : String) (value : Bytes) : Headers :=
  (h.remove name).append name value

/-- The values under a name. -/
def getAll (h : Headers) (name : String) : List Bytes :=
  (h.fields.filter (·.1 = name)).map (·.2)

/-- The first value under a name. -/
def get? (h : Headers) (name : String) : Option Bytes :=
  (h.fields.find? (·.1 = name)).map (·.2)

/-- Put a field behind those of the same or a smaller name. -/
def insertSorted (f : String × Bytes) : List (String × Bytes) → List (String × Bytes)
  | [] => [f]
  | g :: rest => if f.1 < g.1 then f :: g :: rest else g :: insertSorted f rest

/-- The fields sorted by name; those of one name keep their order. -/
def sorted (h : Headers) : List (String × Bytes) :=
  h.fields.foldl (fun acc f => insertSorted f acc) []

end Headers

/-- The longest header name. -/
def maxHeaderName : Nat := 0xFFFF

/-- A header name in lower case, if the text is one. -/
def headerName? (s : String) : Option String :=
  if isToken s && s.length ≤ maxHeaderName then some (lowercase s) else none

/-- A byte that a header value may hold: a tab, or anything but a control. -/
def isHeaderByte (b : UInt8) : Bool := b = 9 || (32 ≤ b && b ≠ 127)

/-- May the bytes be a header value? -/
def isHeaderValue (bs : Bytes) : Bool := bs.all isHeaderByte

/-- A text as a header value, if it may be one. -/
def headerValue? (s : String) : Option Bytes :=
  let value := Bytes.ofString s
  if isHeaderValue value then some value else none

/-- A byte of a readable header value: a tab or a visible character of the basic set. -/
def isReadableByte (b : UInt8) : Bool := b = 9 || (32 ≤ b && b < 127)

/-- A header value as text, if every byte of it is readable. -/
def headerText? (bs : Bytes) : Option String :=
  if bs.all isReadableByte then some (String.ofList (bs.map fun b => Char.ofNat b.toNat)) else none

end Switchyard.Http
