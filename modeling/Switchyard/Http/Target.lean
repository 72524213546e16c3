import Switchyard.Http.Authority

/-!
  Request targets: a path with an optional query, alone or behind a scheme and an authority; a bare
  authority; or an asterisk.  Nothing is decoded or normalised, and a fragment is dropped.
-/

namespace Switchyard.Http

/-- A request target. -/
structure Target where
  scheme? : Option String := none
  authority? : Option String := none
  path : String
  query? : Option String := none
deriving DecidableEq, Repr

namespace Target

/-- The longest target, in bytes. -/
def maxLength : Nat := 0xFFFE

/-- The longest scheme that is not a well-known one. -/
def maxScheme : Nat := 64

/-- A character that a scheme may hold. -/
def isSchemeChar (c : Char) : Bool :=
  isAsciiLetter c || isAsciiDigit c || c = '+' || c = '-' || c = '.' || c = '~'

/-- A character that a path may hold: what needs no escape there, and braces and double quotes. -/
def isPathChar (c : Char) : Bool :=
  let n := c.toNat
  n = 0x21 || (0x24 ≤ n && n ≤ 0x3B) || n = 0x3D || (0x40 ≤ n && n ≤ 0x5F) ||
    (0x61 ≤ n && n ≤ 0x7A) || n = 0x7C || n = 0x7E || 0x80 ≤ n || c = '"' || n = 0x7B || n = 0x7D

/-- A character that a query may hold. -/
def isQueryChar (c : Char) : Bool :=
  let n := c.toNat
  n = 0x21 || (0x24 ≤ n && n ≤ 0x3B) || n = 0x3D || (0x3F ≤ n && n ≤ 0x7E) || 0x80 ≤ n

/-- Characters up to a fragment, all of one kind. -/
def upToFragment (allowed : Char → Bool) : List Char → Except TargetFault (List Char)
  | [] => .ok []
  | c :: cs =>
    if c = '#' then .ok []
    else if allowed c then (upToFragment allowed cs).map (c :: ·)
    else .error .invalidCharacter

/-- A path with its query. -/
def pathAndQuery : List Char → Except TargetFault (List Char × Option (List Char))
  | [] => .ok ([], none)
  | c :: cs =>
    if c = '#' then .ok ([], none)
    else if c = '?' then (upToFragment isQueryChar cs).map fun q => ([], some q)
    else if isPathChar c then do
      let (path, query?) ← pathAndQuery cs
      .ok (c :: path, query?)
    else .error .invalidCharacter

/-- A target from its parts; behind a scheme an empty path is a slash. -/
def ofParts (scheme? authority? : Option String) (path : List Char) (query? : Option (List Char)) :
    Target :=
  { scheme? := scheme?
    authority? := authority?
    path := if path.isEmpty then "/" else String.ofList path
    query? := query?.map String.ofList }

/-- The scheme in front of a text and the text behind it: one of the two well-known ones, which are
    recognised in either case, or a word followed by a colon and two slashes. -/
def splitScheme (cs : List Char) : Except TargetFault (Option (String × List Char)) :=
  if (cs.take 7).map lowerChar = "http://".toList then .ok (some ("http", cs.drop 7))
  else if (cs.take 8).map lowerChar = "https://".toList then .ok (some ("https", cs.drop 8))
  else
    let word := cs.takeWhile isSchemeChar
    match cs.dropWhile isSchemeChar with
    | ':' :: '/' :: '/' :: rest =>
      if cs.length ≤ 3 then .ok none
      else if maxScheme < word.length then .error .schemeTooLong
      else .ok (some (String.ofList word, rest))
    | _ => .ok none

/-- Read a target that does not begin with a slash. -/
def parseFull (cs : List Char) : Except TargetFault Target := do
  match ← splitScheme cs with
  | none =>
    let (authority, rest) ← Authority.split cs
    if rest.isEmpty then
      .ok { authority? := some (String.ofList authority), path := "" }
    else .error .invalidFormat
  | some (scheme, cs) =>
    let (authority, rest) ← Authority.split cs
    if authority.isEmpty then .error .invalidFormat
    else
      let (path, query?) ← pathAndQuery rest
      .ok (ofParts (some scheme) (some (String.ofList authority)) path query?)

/-- Read a target. -/
def parse (s : String) : Except TargetFault Target :=
  if maxLength < s.utf8ByteSize then .error .tooLong
  else match s.toList with
    | [] => .error .empty
    | ['*'] => .ok { path := "*" }
    | '/' :: cs => do
      let (path, query?) ← pathAndQuery ('/' :: cs)
      .ok (ofParts none none path query?)
    | cs => parseFull cs

/-- The text of a target. -/
def text (t : Target) : String :=
  (t.scheme?.map (· ++ "://")).getD "" ++ t.authority?.getD "" ++ t.path ++
    (t.query?.map ("?" ++ ·)).getD ""

/-! ## Parts -/

/-- A target taken apart. -/
structure Parts where
  scheme? : Option String
  authority? : Option String
  /-- The path with its query; nothing where only an authority was given. -/
  path? : Option (String × Option String)
deriving DecidableEq, Repr

/-- Take a target apart. -/
def parts (t : Target) : Parts :=
  { scheme? := t.scheme?, authority? := t.authority?
    path? :=
      if t.path.isEmpty && t.query?.isNone && t.scheme?.isNone then none
      else some (t.path, t.query?) }

/-- Why parts do not make a target. -/
inductive PartsFault where
  | noScheme
  | noAuthority
  | noPath
deriving DecidableEq, Repr

/-- The wording of a fault. -/
def PartsFault.message : PartsFault → String
  | .noScheme => "scheme missing"
  | .noAuthority => "authority missing"
  | .noPath => "path missing"

/-- Put a target together.  A scheme goes with an authority and a path, and these two only go
    together behind a scheme. -/
def assemble (p : Parts) : Except PartsFault Target :=
  let target : Target :=
    { scheme? := p.scheme?, authority? := p.authority?
      path := (p.path?.map (·.1)).getD ""
      query? := p.path?.bind (·.2) }
  match p.scheme?, p.authority?, p.path? with
  | some _, none, _ => .error .noAuthority
  | some _, some _, none => .error .noPath
  | none, some _, some _ => .error .noScheme
  | _, _, _ => .ok target

end Target
end Switchyard.Http
