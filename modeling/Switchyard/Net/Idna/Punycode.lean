import Switchyard.Number.Whole

/-!
  Texts written with the letters, digits and the hyphen of the basic alphabet.

  The basic characters come first.  The others follow in ascending order, each given by how many
  places it lies behind the one before it, where a place is a code point together with a position in
  the text.  These distances are written with digits of growing weight, the lowest first; the bounds
  that tell the last digit from the others follow the size of the distances.
-/

namespace Switchyard.Net.Idna.Punycode

/-- The number of digits. -/
def base : Nat := 36

/-- The first code point that is not basic. -/
def firstCode : Nat := 0x80

/-- The bias at the beginning. -/
def firstBias : Nat := 72

/-- The bound for the digit of a weight: from one to twenty-six. -/
def bound (bias k : Nat) : Nat := if k ≤ bias then 1 else if bias + 26 ≤ k then 26 else k - bias

theorem bound_pos (bias k : Nat) : 1 ≤ bound bias k := by
  unfold bound
  repeat' split
  all_goals omega

/-- The bias after a distance among so many characters. -/
def adapt (first : Bool) (delta count : Nat) : Nat :=
  let d := if first then delta / 700 else delta / 2
  scale 0 (d + d / count)
where
  /-- Divide until the number is small, counting up by the base. -/
  scale (k d : Nat) : Nat :=
    if h : 455 < d then scale (k + base) (d / 35)
    else k + base * d / (d + 38)
  termination_by d
  decreasing_by omega

/-- The character of a digit. -/
def digitChar (d : Nat) : Char := if d < 26 then Char.ofNat (97 + d) else Char.ofNat (22 + d)

/-- The digit of a character. -/
def digit? (c : Char) : Option Nat :=
  if 'a' ≤ c && c ≤ 'z' then some (c.toNat - 97)
  else (Number.digitValue? c).map (· + 26)

/-! ## Writing -/

/-- The digits of a distance, from the weight `k` on. -/
def writeDistance (bias k q : Nat) : List Char :=
  let t := bound bias k
  if h : q < t ∨ base ≤ t then [digitChar q]
  else
    have : (q - t) / (base - t) < q := by
      have ht : 1 ≤ t := bound_pos bias k
      exact Nat.lt_of_le_of_lt (Nat.div_le_self _ _) (by omega)
    digitChar (t + (q - t) % (base - t)) :: writeDistance bias (k + base) ((q - t) / (base - t))
termination_by q

/-- Where writing stands: the distance so far, how many characters are written, and the bias. -/
structure Progress where
  delta : Nat
  written : Nat
  bias : Nat
  /-- Is no character beyond the basic ones written yet? -/
  first : Bool

/-- Pass over the text once for one code point. -/
def writeCode (code : Nat) (p : Progress) : List Char → Progress × List Char
  | [] => (p, [])
  | c :: cs =>
    if c.toNat < code then writeCode code { p with delta := p.delta + 1 } cs
    else if c.toNat = code then
      let digits := writeDistance p.bias base p.delta
      let bias := adapt p.first p.delta (p.written + 1)
      let (p, more) := writeCode code ⟨0, p.written + 1, bias, false⟩ cs
      (p, digits ++ more)
    else writeCode code p cs

/-- Write the code points in ascending order; `next` is the one after the last. -/
def writeCodes (text : List Char) (next : Nat) (p : Progress) : List Nat → List Char
  | [] => []
  | code :: rest =>
    let p := { p with delta := p.delta + (code - next) * (p.written + 1) }
    let (p, digits) := writeCode code p text
    digits ++ writeCodes text (code + 1) { p with delta := p.delta + 1 } rest

/-- Write a text. -/
def encode (text : List Char) : List Char :=
  let basic := text.filter (·.toNat < firstCode)
  let codes := ((text.map Char.toNat).filter (firstCode ≤ ·)).mergeSort.eraseDups
  let rest := writeCodes text firstCode ⟨0, basic.length, firstBias, true⟩ codes
  if basic.isEmpty then rest else basic ++ '-' :: rest

/-! ## Reading -/

/-- Read a distance: its value and the characters after it. -/
def readDistance (bias : Nat) : (k weight : Nat) → List Char → Option (Nat × List Char)
  | _, _, [] => none
  | k, weight, c :: cs => (digit? c).bind fun d =>
    let t := bound bias k
    if d < t then some (d * weight, cs)
    else (readDistance bias (k + base) (weight * (base - t)) cs).map fun (n, rest) =>
      (d * weight + n, rest)

theorem length_of_readDistance {bias k weight n : Nat} {cs rest : List Char}
    (h : readDistance bias k weight cs = some (n, rest)) : rest.length < cs.length := by
  induction cs generalizing k weight n with
  | nil => simp [readDistance] at h
  | cons c cs ih =>
    simp only [readDistance, Option.bind_eq_some_iff] at h
    obtain ⟨d, _, h⟩ := h
    split at h
    · simp only [Option.some.injEq, Prod.mk.injEq] at h
      simp [h.2]
    · simp only [Option.map_eq_some_iff, Prod.mk.injEq] at h
      obtain ⟨⟨m, r⟩, hr, _, rfl⟩ := h
      exact Nat.lt_succ_of_lt (ih hr)

/-- Put the characters that the distances stand for into a text; `code` and `place` are those of the
    last one. -/
def readCodes (bias code place : Nat) (first : Bool) (text : List Char) (cs : List Char) :
    Option (List Char) :=
  if cs.isEmpty then some text
  else match h : readDistance bias base 1 cs with
    | none => none
    | some (distance, rest) =>
      have : rest.length < cs.length := length_of_readDistance h
      let count := text.length + 1
      let place := place + distance
      let code := code + place / count
      if code.isValidChar then
        let text := text.insertIdx (place % count) (Char.ofNat code)
        readCodes (adapt first distance count) code (place % count + 1) false text rest
      else none
termination_by cs.length

/-- The text that is written so, if there is one. -/
def decode (cs : List Char) : Option (List Char) :=
  match cs.reverse.idxOf? '-' with
  | none => readCodes firstBias firstCode 0 true [] cs
  | some fromEnd =>
    let basic := cs.take (cs.length - 1 - fromEnd)
    readCodes firstBias firstCode 0 true basic (cs.drop (basic.length + 1))

end Switchyard.Net.Idna.Punycode
