import Switchyard.Net.DomainName
import Switchyard.Net.Ipv6
import Switchyard.Text.Quoted

/-!
  The front part of URLs: scheme, host and endpoint number, read the lenient way of browsers.

  Blanks around the text and line breaks and tabs anywhere in it do not count.  The well-known schemes
  take any number of slashes, either way round, and need a host; other schemes are looked at only as
  far as it takes to see whether they are well-formed.
-/

namespace Switchyard.Net

/-- The host of a URL. -/
inductive Host where
  | domain (name : String)
  | v4 (ip : Ipv4)
  | v6 (ip : Ipv6)
deriving DecidableEq, Repr

/-- The text of a host. -/
def Host.text : Host → String
  | .domain name => name
  | .v4 ip => ip.text
  | .v6 ip => "[" ++ ip.text ++ "]"

/-- What is wrong with a URL. -/
inductive UrlFault where
  | noScheme
  | emptyHost
  | invalidDomain
  | invalidDomainCharacter
  | invalidIpv4
  | invalidIpv6
  | invalidEndpoint
deriving DecidableEq, Repr

/-- The wording of a fault. -/
def UrlFault.message : UrlFault → String
  | .noScheme => "relative URL without a base"
  | .emptyHost => "empty host"
  | .invalidDomain => "invalid international domain name"
  | .invalidDomainCharacter => "invalid domain character"
  | .invalidIpv4 => "invalid IPv4 address"
  | .invalidIpv6 => "invalid IPv6 address"
  | .invalidEndpoint => "invalid port number"

/-- The front part of a URL. -/
structure Url where
  scheme : String
  /-- The host; nothing where the scheme does without. -/
  host? : Option Host
  /-- The number of the TCP endpoint, where it is given. -/
  endpoint? : Option Nat
deriving DecidableEq, Repr

namespace Url

/-- The ways in which schemes differ. -/
inductive SchemeType where
  | file
  /-- One of the well-known schemes with hosts. -/
  | special
  | other
deriving DecidableEq, Repr

/-- The type of a scheme. -/
def schemeType (scheme : String) : SchemeType :=
  if scheme = "file" then .file
  else if ["http", "https", "ws", "wss", "ftp"].contains scheme then .special
  else .other

/-- Is it a letter of the basic alphabet? -/
def isLetter (c : Char) : Bool := ('a' ≤ c && c ≤ 'z') || ('A' ≤ c && c ≤ 'Z')

/-- A character of a scheme. -/
def isSchemeChar (c : Char) : Bool :=
  isLetter c || ('0' ≤ c && c ≤ '9') || c = '+' || c = '-' || c = '.'

/-- Does the character end the part with the host? -/
def isEnd (special : Bool) (c : Char) : Bool :=
  c = '/' || c = '?' || c = '#' || (special && c = '\\')

/-- The characters that count: none of the blanks and controls around a text, and no line breaks and
    tabs in it. -/
def significant (s : String) : List Char :=
  let isOuter (c : Char) : Bool := c.toNat ≤ 0x20
  let trimmed := ((s.toList.dropWhile isOuter).reverse.dropWhile isOuter).reverse
  trimmed.filter fun c => c ≠ '\t' && c ≠ '\n' && c ≠ '\r'

/-- The scheme in lower case and the text behind its colon. -/
def splitScheme? (cs : List Char) : Option (String × List Char) :=
  let word := cs.takeWhile isSchemeChar
  match cs.head?.map isLetter, cs.dropWhile isSchemeChar with
  | some true, ':' :: rest => some (String.ofList (word.map DomainName.lowerChar), rest)
  | _, _ => none

/-- Skip user information: whether there is any, and the text behind it.  It reaches to the last at
    sign, and behind one that stands first there has to be a host. -/
def skipUserInfo (special : Bool) (cs : List Char) : Except UrlFault (Bool × List Char) :=
  let part := cs.takeWhile fun c => !isEnd special c
  match part.reverse.idxOf? '@' with
  | none => .ok (false, cs)
  | some fromEnd =>
    let before := part.take (part.length - 1 - fromEnd)
    let after := cs.drop (before.length + 1)
    if before.isEmpty && (after.head?.map (isEnd special)).getD false then .error .emptyHost
    else .ok (!before.isEmpty && before ≠ [':'], after)

/-- The text of a host and the text behind it.  A colon ends it outside of brackets. -/
def splitHost (special : Bool) : (inside : Bool) → List Char → List Char × List Char
  | _, [] => ([], [])
  | inside, c :: cs =>
    if (c = ':' && !inside) || isEnd special c then ([], c :: cs)
    else
      let inside := if c = '[' then true else if c = ']' then false else inside
      let (host, rest) := splitHost special inside cs
      (c :: host, rest)

/-- The address between brackets. -/
def bracketedHost (cs : List Char) : Except UrlFault Host :=
  if cs.getLast? = some ']' then
    match Ipv6.ofUrl? cs.dropLast with
    | some ip => .ok (.v6 ip)
    | none => .error .invalidIpv6
  else .error .invalidIpv6

/-- Read the host of a well-known scheme. -/
def readHost (cs : List Char) : Except UrlFault Host :=
  match cs with
  | '[' :: rest => bracketedHost rest
  | _ =>
    match (Bytes.chars? (DomainName.percentDecode (Bytes.ofChars cs))).bind DomainName.toAscii? with
    | none => .error .invalidDomain
    | some name =>
      if name.isEmpty then .error .emptyHost
      else if Ipv4.endsInNumber name then
        match Ipv4.ofHost? name with
        | some ip => .ok (.v4 ip)
        | none => .error .invalidIpv4
      else .ok (.domain name)

/-- A character that no host of another scheme holds. -/
def isForbiddenOpaque (c : Char) : Bool :=
  c.toNat = 0 || c = ' ' || "\t\n\r#/:<>?@[\\]^|".toList.contains c

/-- Read the host of another scheme, which may be empty. -/
def readOpaqueHost (cs : List Char) : Except UrlFault Host :=
  match cs with
  | '[' :: rest => bracketedHost rest
  | _ =>
    if cs.any isForbiddenOpaque then .error .invalidDomainCharacter
    else .ok (.domain (String.ofList cs))

/-- Read an endpoint number, onto the digits read so far, up to the end of the part. -/
def readEndpoint (value? : Option Nat) : List Char → Except UrlFault (Option Nat)
  | [] => .ok value?
  | c :: cs =>
    match Number.digitValue? c with
    | some d =>
      let value := value?.getD 0 * 10 + d
      if 0x10000 ≤ value then .error .invalidEndpoint else readEndpoint (some value) cs
    | none => if isEnd true c then .ok value? else .error .invalidEndpoint

/-- Read what stands behind the slashes. -/
def readAuthority (scheme : String) (special : Bool) (cs : List Char) : Except UrlFault Url := do
  let (hasUser, cs) ← skipUserInfo special cs
  let (hostText, rest) := splitHost special false cs
  if special && hostText.isEmpty then throw .emptyHost
  let host ← if special then readHost hostText else readOpaqueHost hostText
  let isEmpty := host = .domain ""
  match rest with
  | ':' :: digits =>
    if isEmpty then throw .emptyHost
    let endpoint? ← readEndpoint none digits
    return ⟨scheme, some host, endpoint?⟩
  | _ =>
    if isEmpty && hasUser then throw .emptyHost
    return ⟨scheme, if isEmpty then none else some host, none⟩

/-- Does a text stand for a drive instead of a host? -/
def isDrive (cs : List Char) : Bool :=
  match cs with
  | [c, d] => isLetter c && (d = ':' || d = '|')
  | _ => false

/-- Read what stands behind the scheme of a file. -/
def readFile (scheme : String) (cs : List Char) : Except UrlFault Url :=
  let isSlash (c : Char) : Bool := c = '/' || c = '\\'
  match cs with
  | a :: b :: rest =>
    if isSlash a && isSlash b then
      let host := rest.takeWhile fun c => !isEnd true c
      if host.isEmpty || isDrive host then .ok ⟨scheme, none, none⟩
      else (readHost host).map fun h =>
        ⟨scheme, if h = .domain "localhost" then none else some h, none⟩
    else .ok ⟨scheme, none, none⟩
  | _ => .ok ⟨scheme, none, none⟩

/-- Read the front part of a URL. -/
def parse (s : String) : Except UrlFault Url :=
  match splitScheme? (significant s) with
  | none => .error .noScheme
  | some (scheme, cs) =>
    match schemeType scheme with
    | .file => readFile scheme cs
    | .special => readAuthority scheme true (cs.dropWhile fun c => c = '/' || c = '\\')
    | .other =>
      match cs with
      | '/' :: '/' :: rest => readAuthority scheme false rest
      | _ => .ok ⟨scheme, none, none⟩

end Url
end Switchyard.Net
