import Switchyard.Http.Token

/-!
  The authority part of a request target: user information, host and endpoint number.

  It ends at the first slash, question mark or number sign.  What stands before an at sign is user
  information and is not looked at any closer.
-/

namespace Switchyard.Http

/-- What is wrong with a request target. -/
inductive TargetFault where
  | empty
  | tooLong
  | invalidCharacter
  | invalidAuthority
  | invalidFormat
  | schemeTooLong
deriving DecidableEq, Repr

/-- The wording of a fault. -/
def TargetFault.message : TargetFault → String
  | .empty => "empty string"
  | .tooLong => "uri too long"
  | .invalidCharacter => "invalid uri character"
  | .invalidAuthority => "invalid authority"
  | .invalidFormat => "invalid format"
  | .schemeTooLong => "scheme too long"

namespace Authority

/-- A character that an authority may hold, apart from the percent sign. -/
def isAuthorityChar (c : Char) : Bool :=
  isAsciiLetter c || isAsciiDigit c || "!#$&'()*+,-./:;=?@[]_~".toList.contains c

/-- A character that ends an authority. -/
def isEnd (c : Char) : Bool := c = '/' || c = '?' || c = '#'

/-- What has been seen of an authority. -/
structure Seen where
  /-- Colons since the last at sign or closing bracket. -/
  colons : Nat := 0
  opened : Bool := false
  closed : Bool := false
  /-- A percent sign since the last at sign or closing bracket. -/
  percent : Bool := false
  /-- Was the last character an at sign? -/
  endsWithAt : Bool := false

/-- The most colons in a row of parts. -/
def maxColons : Nat := 8

/-- Look at one more character. -/
def Seen.push (s : Seen) (c : Char) : Except TargetFault Seen :=
  let s := { s with endsWithAt := false }
  if c = ':' then
    if maxColons ≤ s.colons then .error .invalidAuthority else .ok { s with colons := s.colons + 1 }
  else if c = '[' then
    if s.percent || s.opened then .error .invalidAuthority else .ok { s with opened := true }
  else if c = ']' then
    if !s.opened || s.closed then .error .invalidAuthority
    else .ok { s with closed := true, colons := 0, percent := false }
  else if c = '@' then .ok { s with colons := 0, percent := false, endsWithAt := true }
  else if c = '%' then .ok { s with percent := true }
  else if isAuthorityChar c then .ok s
  else .error .invalidCharacter

/-- Is an authority complete after what has been seen? -/
def Seen.check (s : Seen) : Except TargetFault Unit :=
  if s.opened ≠ s.closed || 1 < s.colons || s.endsWithAt || s.percent then .error .invalidAuthority
  else .ok ()

/-- Look at characters up to the end of an authority. -/
def scan (s : Seen) : List Char → Except TargetFault (List Char × List Char)
  | [] => s.check.map fun _ => ([], [])
  | c :: cs =>
    if isEnd c then s.check.map fun _ => ([], c :: cs)
    else do
      let s ← s.push c
      let (authority, rest) ← scan s cs
      .ok (c :: authority, rest)

/-- An authority in front of a text, with the text after it. -/
def split (cs : List Char) : Except TargetFault (List Char × List Char) := scan {} cs

/-- Is the whole text an authority? -/
def check (s : String) : Except TargetFault Unit :=
  if s.isEmpty then .error .empty
  else do
    let (_, rest) ← split s.toList
    if rest.isEmpty then .ok () else .error .invalidCharacter

end Authority
end Switchyard.Http
