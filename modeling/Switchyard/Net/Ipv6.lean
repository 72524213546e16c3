import Switchyard.Net.Ipv4

/-!
  IPv6 addresses: the form in socket addresses, the form in URLs, and the text with the longest run
  of zeros left out.
-/

namespace Switchyard.Net

/-- An address as its eight groups of sixteen bits. -/
structure Ipv6 where
  groups : List Nat
deriving DecidableEq, Repr

namespace Ipv6

/-- The number of groups of an address. -/
def size : Nat := 8

/-- Up to four digits in base sixteen, in front of a text: their value, how many, and the rest. -/
def readGroup (cs : List Char) : Nat × Nat × List Char :=
  let digits := (cs.take 4).takeWhile fun c => (Number.digitIn? 16 c).isSome
  ((Number.readDigits 16 0 digits).getD 0, digits.length, cs.drop digits.length)

/-- The two groups of an embedded IPv4 address. -/
def embedded (i : Ipv4) : List Nat := [i.a * 256 + i.b, i.c * 256 + i.d]

/-! ## Socket addresses -/

/-- Groups between colons, at most so many; two groups may be written as an IPv4 address, which then
    is the last.  Also says whether it was one. -/
def readGroups : (room : Nat) → (first : Bool) → List Char → List Nat × Bool × List Char
  | 0, _, cs => ([], false, cs)
  | room + 1, first, cs =>
    let inner? := if first then some cs else match cs with
      | ':' :: rest => some rest
      | _ => none
    match inner? with
    | none => ([], false, cs)
    | some inner =>
      match (if 1 ≤ room then Ipv4.read? inner else none) with
      | some (i, rest) => (embedded i, true, rest)
      | none =>
        let digits := inner.takeWhile fun c => (Number.digitIn? 16 c).isSome
        if digits.isEmpty || 4 < digits.length then ([], false, cs)
        else
          let (groups, v4, rest) := readGroups room false (inner.drop digits.length)
          ((Number.readDigits 16 0 digits).getD 0 :: groups, v4, rest)

/-- An address in front of a text: eight groups, or fewer with a gap written as two colons. -/
def read? (cs : List Char) : Option (Ipv6 × List Char) :=
  let (head, v4, rest) := readGroups size true cs
  if head.length = size then some (⟨head⟩, rest)
  else if v4 then none
  else match rest with
    | ':' :: ':' :: rest =>
      let (tail, _, rest) := readGroups (size - (head.length + 1)) true rest
      some (⟨head ++ List.replicate (size - head.length - tail.length) 0 ++ tail⟩, rest)
    | _ => none

/-! ## URLs -/

/-- The groups of an address in a URL, onto those read so far; where there is a gap, the groups up
    to it are counted, itself included as one. -/
def readUrlGroups (steps : Nat) (groups : List Nat) (gap? : Option Nat) (cs : List Char) :
    Option (List Nat × Option Nat) :=
  match steps, cs with
  | _, [] => some (groups, gap?)
  | 0, _ => none
  | steps + 1, c :: cs =>
    if groups.length = size then none
    else if c = ':' then
      if gap?.isSome then none
      else readUrlGroups steps (groups ++ [0]) (some (groups.length + 1)) cs
    else
      let (value, count, rest) := readGroup (c :: cs)
      match rest with
      | [] => some (groups ++ [value], gap?)
      | ':' :: rest =>
        if rest.isEmpty then none else readUrlGroups steps (groups ++ [value]) gap? rest
      | '.' :: _ =>
        if count = 0 || 6 < groups.length then none
        else match Ipv4.read? (c :: cs) with
          | some (i, []) => some (groups ++ embedded i, gap?)
          | _ => none
      | _ => none

/-- Move the groups behind a gap to the end. -/
def closeGap (groups : List Nat) : Option Nat → Option Ipv6
  | none => if groups.length = size then some ⟨groups⟩ else none
  | some gap => some ⟨groups.take gap ++ List.replicate (size - groups.length) 0 ++ groups.drop gap⟩

/-- The address between the brackets of a URL's host. -/
def ofUrl? (cs : List Char) : Option Ipv6 :=
  match cs with
  | ':' :: ':' :: rest =>
    (readUrlGroups rest.length [0] (some 1) rest).bind fun (groups, gap?) => closeGap groups gap?
  | [] | [_] | ':' :: _ => none
  | _ => (readUrlGroups cs.length [] none cs).bind fun (groups, gap?) => closeGap groups gap?

/-! ## Text -/

/-- The number of zeros that a list of groups begins with. -/
def zeroRun (groups : List Nat) : Nat := (groups.takeWhile (· = 0)).length

/-- The start and length of the first of the longest runs of zeros. -/
def longestRun (groups : List Nat) : Nat × Nat :=
  (List.range groups.length).foldl
    (fun best i =>
      let n := zeroRun (groups.drop i)
      if best.2 < n then (i, n) else best) (0, 0)

/-- Groups in base sixteen with colons between them. -/
def groupsText (groups : List Nat) : String :=
  String.intercalate ":" (groups.map fun g => String.ofList (Nat.toDigits 16 g))

/-- The text of an address; of two or more zeros in a row the longest run is left out. -/
def text (i : Ipv6) : String :=
  let (start, count) := longestRun i.groups
  if count < 2 then groupsText i.groups
  else groupsText (i.groups.take start) ++ "::" ++ groupsText (i.groups.drop (start + count))

end Ipv6
end Switchyard.Net
