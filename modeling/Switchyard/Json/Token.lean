import Switchyard.Json.Fault

/-!
  The scalars of a JSON text: blanks, words, strings and numbers.  Each reader takes the unread
  bytes and gives what it read with the bytes after it.
-/

namespace Switchyard.Json

/-- A reader: from the unread bytes to a value and the bytes after it. -/
abbrev Reader (α : Type) := Bytes → Except Fault (α × Bytes)

/-- Fail with the bytes as they stand. -/
def failAt {α : Type} (cause : Cause) (unread : Bytes) : Except Fault α := .error ⟨cause, unread⟩

/-- Fail at the byte that comes next, if there is one. -/
def failOn {α : Type} (cause : Cause) (unread : Bytes) : Except Fault α :=
  .error (.peeked cause unread)

/-- Blanks between tokens: space, tab, line feed and carriage return. -/
def isBlank (b : UInt8) : Bool := b = 0x20 || b = 0x09 || b = 0x0A || b = 0x0D

/-- Skip blanks. -/
def skipBlanks : Bytes → Bytes := List.dropWhile isBlank

/-- Is the byte a decimal digit? -/
def isDigit (b : UInt8) : Bool := 0x30 ≤ b && b ≤ 0x39

/-- The rest of a word such as `null` whose first letter was read. -/
def readWordRest : Bytes → Reader Unit
  | [], bs => .ok ((), bs)
  | _ :: _, [] => failAt .eofValue []
  | w :: ws, b :: bs => if b = w then readWordRest ws bs else failAt .expectedWord bs

/-! ## Strings -/

/-- The value of four hexadecimal digits. -/
def hexWord? (bs : Bytes) : Option Nat :=
  Number.readDigits 16 0 (bs.map fun b => Char.ofNat b.toNat)

/-- The byte that a short escape stands for. -/
def shortEscape? (b : UInt8) : Option UInt8 :=
  if b = 0x22 || b = 0x5C || b = 0x2F then some b
  else if b = 0x62 then some 0x08
  else if b = 0x66 then some 0x0C
  else if b = 0x6E then some 0x0A
  else if b = 0x72 then some 0x0D
  else if b = 0x74 then some 0x09
  else none

/-- Four hexadecimal digits. -/
def readHexWord : Reader Nat
  | a :: b :: c :: d :: rest =>
    match hexWord? [a, b, c, d] with
    | some n => .ok (n, rest)
    | none => failAt .invalidEscape rest
  | _ => failAt .eofString []

/-- The second half of a surrogate pair, with its backslash, after a first half. -/
def readSecondHalf : Reader Nat
  | [] => failAt .eofString []
  | b :: bs =>
    if b ≠ 0x5C then failAt .halfSurrogatePair bs
    else match bs with
      | [] => failAt .eofString []
      | u :: rest => if u ≠ 0x75 then failAt .halfSurrogatePair rest else readHexWord rest

/-- The bytes that an escape stands for, its backslash having been read. -/
def readEscape : Reader Bytes
  | [] => failAt .eofString []
  | e :: bs =>
    match shortEscape? e with
    | some b => .ok ([b], bs)
    | none =>
      if e ≠ 0x75 then failAt .invalidEscape bs
      else do
        let (n, rest) ← readHexWord bs
        if 0xDC00 ≤ n ∧ n ≤ 0xDFFF then failAt .loneSurrogate rest
        else if n < 0xD800 ∨ 0xDBFF < n then .ok (Bytes.ofChars [Char.ofNat n], rest)
        else
          let (m, rest) ← readSecondHalf rest
          if m < 0xDC00 ∨ 0xDFFF < m then failAt .loneSurrogate rest
          else .ok (Bytes.ofChars [Char.ofNat (0x10000 + (n - 0xD800) * 0x400 + (m - 0xDC00))], rest)

/-- The bytes of a string after its opening quote, read onto those before them (last first).  The
    steps are bounded by a count that the number of bytes left always covers. -/
def readStringOnto : Nat → Bytes → Reader Bytes
  | 0, _, _ => failAt .eofString []
  | _ + 1, _, [] => failAt .eofString []
  | steps + 1, seen, b :: bs =>
    if b = 0x22 then .ok (seen.reverse, bs)
    else if b = 0x5C then do
      let (more, rest) ← readEscape bs
      readStringOnto steps (more.reverse ++ seen) rest
    else if b < 0x20 then failAt .controlCharacter bs
    else readStringOnto steps (b :: seen) bs

/-- A string after its opening quote.  Bytes that are no text are noticed before the closing quote is
    taken. -/
def readString : Reader String := fun bs => do
  let (bytes, rest) ← readStringOnto (bs.length + 1) [] bs
  match Bytes.string? bytes with
  | some s => .ok (s, rest)
  | none => failAt .invalidUnicode (0x22 :: rest)

/-- Skip an escape whose backslash was read, looking only at its form. -/
def skipEscape : Reader Unit
  | [] => failAt .eofString []
  | e :: bs =>
    if (shortEscape? e).isSome then .ok ((), bs)
    else if e = 0x75 then (readHexWord bs).map fun (_, rest) => ((), rest)
    else failAt .invalidEscape bs

/-- Skip a string after its opening quote, looking only at its form. -/
def skipStringFrom : Nat → Reader Unit
  | 0, _ => failAt .eofString []
  | _ + 1, [] => failAt .eofString []
  | steps + 1, b :: bs =>
    if b = 0x22 then .ok ((), bs)
    else if b = 0x5C then do
      let (_, rest) ← skipEscape bs
      skipStringFrom steps rest
    else if b < 0x20 then failAt .controlCharacter (b :: bs)
    else skipStringFrom steps bs

/-- Skip a string after its opening quote. -/
def skipString : Reader Unit := fun bs => skipStringFrom (bs.length + 1) bs

/-! ## Numbers -/

/-- A number as it was written: a whole number in the range of a word, or a double. -/
inductive Numeral where
  | int (i : Int)
  | double (x : Float)

/-- The name of a number in a message. -/
def Numeral.found : Numeral → Found
  | .int i => .integer i
  | .double x => .double x

/-- The value of a digit byte. -/
def digitOf (b : UInt8) : Nat := b.toNat - 0x30

/-- Powers of ten as doubles, up to the largest. -/
def powerOfTen (e : Nat) : Float := Float.ofScientific 1 false e

/-- `significand · 10 ^ exponent` computed in doubles: one multiplication or division by a power of
    ten, with one division by the largest power before it for every 308 places below that.  `none`
    when the value is too large. -/
def scaleFrom : Nat → Float → Int → Option Float
  | 0, x, _ => some x
  | steps + 1, x, e =>
    if e.natAbs ≤ 308 then
      if 0 ≤ e then
        let y := x * powerOfTen e.natAbs
        if y.isInf then none else some y
      else some (x / powerOfTen e.natAbs)
    else if x == 0.0 then some x
    else if 0 ≤ e then none
    else scaleFrom steps (x / powerOfTen 308) (e + 308)

/-- A double from its sign, significand and power of ten; fails when it is too large. -/
def makeDouble (positive : Bool) (significand : Nat) (exponent : Int) : Reader Numeral := fun bs =>
  match scaleFrom 8 (Float.ofNat significand) exponent with
  | some x => .ok (.double (if positive then x else -x), bs)
  | none => failAt .numberOutOfRange bs

/-- Whole digits onto a significand while it fits a word; once one does not fit, it and all after it
    are only counted. -/
def wholeDigits : Nat × Nat → List Nat → Nat × Nat
  | acc, [] => acc
  | (n, dropped), d :: ds =>
    if dropped = 0 ∧ n * 10 + d ≤ Number.maxWord then wholeDigits (n * 10 + d, 0) ds
    else wholeDigits (n, dropped + 1) ds

/-- Digits after the point onto a significand while it fits a word; the first that does not fit ends
    it.  Counts the digits taken. -/
def fractionDigits : Nat × Nat → List Nat → Nat × Nat
  | acc, [] => acc
  | (n, taken), d :: ds =>
    if n * 10 + d ≤ Number.maxWord then fractionDigits (n * 10 + d, taken + 1) ds else (n, taken)

/-- The digits of an exponent while it stays below the bound of its word; `none` with the bytes
    after the digit that passed it. -/
def exponentDigits : Nat → Bytes → Except Bytes (Nat × Bytes)
  | e, [] => .ok (e, [])
  | e, b :: bs =>
    if isDigit b then
      if e * 10 + digitOf b ≤ 0x7FFFFFFF then exponentDigits (e * 10 + digitOf b) bs else .error bs
    else .ok (e, b :: bs)

/-- The exponent of a number, its letter having been read. -/
def readExponent (positive : Bool) (significand : Nat) (start : Int) : Reader Numeral := fun bs =>
  let (up, bs) := match bs with
    | 0x2B :: rest => (true, rest)
    | 0x2D :: rest => (false, rest)
    | _ => (true, bs)
  match bs with
  | [] => failAt .eofValue []
  | b :: rest =>
    if !isDigit b then failAt .invalidNumber rest
    else match exponentDigits (digitOf b) rest with
      | .ok (e, rest) =>
        makeDouble positive significand (if up then start + e else start - e) rest
      | .error rest =>
        if significand ≠ 0 ∧ up then failAt .numberOutOfRange rest
        else .ok (.double (if positive then 0.0 else -0.0), rest.dropWhile isDigit)

/-- The part of a number after its point. -/
def readFraction (positive : Bool) (significand : Nat) (start : Int) : Reader Numeral := fun bs =>
  let digits := bs.takeWhile isDigit
  let rest := bs.dropWhile isDigit
  if digits.isEmpty then failOn (if rest.isEmpty then .eofValue else .invalidNumber) rest
  else
    let (n, taken) := fractionDigits (significand, 0) (digits.map digitOf)
    match rest with
    | 0x65 :: rest | 0x45 :: rest => readExponent positive n (start - taken) rest
    | _ => makeDouble positive n (start - taken) rest

/-- What follows the whole digits of a number. -/
def readAfterWhole (positive : Bool) (significand dropped : Nat) : Reader Numeral := fun bs =>
  match bs with
  | 0x2E :: rest => readFraction positive significand dropped rest
  | 0x65 :: rest | 0x45 :: rest => readExponent positive significand dropped rest
  | _ =>
    if dropped ≠ 0 then makeDouble positive significand dropped bs
    else if positive then .ok (.int significand, bs)
    else if significand = 0 ∨ 0x8000000000000000 < significand then
      .ok (.double (-(Float.ofNat significand)), bs)
    else .ok (.int (-significand), bs)

/-- A number, its minus sign having been read.  A leading zero stands alone. -/
def readNumeral (positive : Bool) : Reader Numeral := fun bs =>
  match bs with
  | [] => failAt .eofValue []
  | 0x30 :: rest =>
    if rest.head?.any isDigit then failOn .invalidNumber rest
    else readAfterWhole positive 0 0 rest
  | b :: rest =>
    if isDigit b then
      let digits := rest.takeWhile isDigit
      let (n, dropped) := wholeDigits (digitOf b, 0) (digits.map digitOf)
      readAfterWhole positive n dropped (rest.dropWhile isDigit)
    else failAt .invalidNumber rest

/-- Skip an exponent, its letter having been read. -/
def skipExponent : Reader Unit := fun bs =>
  let bs := match bs with
    | 0x2B :: rest | 0x2D :: rest => rest
    | _ => bs
  match bs with
  | [] => failAt .invalidNumber []
  | b :: rest =>
    if isDigit b then .ok ((), rest.dropWhile isDigit) else failAt .invalidNumber rest

/-- Skip what follows the whole digits of a number. -/
def skipAfterWhole : Reader Unit := fun bs =>
  match bs with
  | 0x2E :: rest =>
    let after := rest.dropWhile isDigit
    if (rest.takeWhile isDigit).isEmpty then failOn .invalidNumber after
    else match after with
      | 0x65 :: rest | 0x45 :: rest => skipExponent rest
      | _ => .ok ((), after)
  | 0x65 :: rest | 0x45 :: rest => skipExponent rest
  | _ => .ok ((), bs)

/-- Skip a number, its minus sign having been read, looking only at its form. -/
def skipNumeral : Reader Unit := fun bs =>
  match bs with
  | [] => failAt .invalidNumber []
  | 0x30 :: rest =>
    if rest.head?.any isDigit then failOn .invalidNumber rest else skipAfterWhole rest
  | b :: rest =>
    if isDigit b then skipAfterWhole (rest.dropWhile isDigit) else failAt .invalidNumber rest

end Switchyard.Json
