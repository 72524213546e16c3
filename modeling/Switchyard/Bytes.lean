/-!
  Bytes and the text they stand for.  Text is written in UTF-8, and reading accepts exactly what
  writing produces: no overlong form, no surrogate, nothing beyond the last code point.
-/

namespace Switchyard

/-- A sequence of bytes. -/
abbrev Bytes := List UInt8

namespace Bytes

/-- The bytes of a text. -/
def ofChars (cs : List Char) : Bytes := cs.flatMap String.utf8EncodeChar

/-- The bytes of a string. -/
def ofString (s : String) : Bytes := ofChars s.toList

/-- The six low bits of a continuation byte. -/
def continuation? (b : UInt8) : Option Nat :=
  if 0x80 ≤ b && b < 0xC0 then some (b.toNat - 0x80) else none

/-- Continuation bytes added to a value read so far, six bits each. -/
def continue? : Nat → Nat → Bytes → Option (Nat × Bytes)
  | 0, n, bs => some (n, bs)
  | _ + 1, _, [] => none
  | k + 1, n, b :: bs => (continuation? b).bind fun x => continue? k (n * 64 + x) bs

theorem length_of_continue? {k n m : Nat} {bs rest : Bytes} (h : continue? k n bs = some (m, rest)) :
    rest.length ≤ bs.length := by
  induction k generalizing n bs with
  | zero => simp only [continue?, Option.some.injEq, Prod.mk.injEq] at h; simp [h.2]
  | succ k ih =>
    cases bs with
    | nil => simp [continue?] at h
    | cons b bs =>
      simp only [continue?, Option.bind_eq_some_iff] at h
      obtain ⟨x, _, h⟩ := h
      exact Nat.le_succ_of_le (ih h)

/-- What a leading byte of a longer form announces: the number of bytes that follow, its own bits,
    and the least code point that needs this form. -/
def lead? (b : UInt8) : Option (Nat × Nat × Nat) :=
  if b < 0xC0 then none
  else if b < 0xE0 then some (1, b.toNat - 0xC0, 0x80)
  else if b < 0xF0 then some (2, b.toNat - 0xE0, 0x800)
  else if b < 0xF8 then some (3, b.toNat - 0xF0, 0x10000)
  else none

/-- The first character of a byte sequence with the bytes after it; `none` where no character
    begins. -/
def nextChar? : Bytes → Option (Char × Bytes)
  | [] => none
  | b :: bs =>
    if b < 0x80 then some (Char.ofNat b.toNat, bs)
    else (lead? b).bind fun (k, start, least) =>
      (continue? k start bs).bind fun (n, rest) =>
        if least ≤ n ∧ n.isValidChar then some (Char.ofNat n, rest) else none

theorem length_of_nextChar? {bs rest : Bytes} {c : Char} (h : nextChar? bs = some (c, rest)) :
    rest.length < bs.length := by
  cases bs with
  | nil => simp [nextChar?] at h
  | cons b bs =>
    simp only [nextChar?] at h
    split at h
    · simp only [Option.some.injEq, Prod.mk.injEq] at h
      simp [h.2]
    · simp only [Option.bind_eq_some_iff] at h
      obtain ⟨⟨k, start, least⟩, _, ⟨n, r⟩, hr, h⟩ := h
      split at h
      · simp only [Option.some.injEq, Prod.mk.injEq] at h
        exact Nat.lt_succ_of_le (h.2 ▸ length_of_continue? hr)
      · simp at h

/-- The characters of a byte sequence in front of those read so far, last first. -/
def decodeOnto (seen : List Char) (bs : Bytes) : Option (List Char) :=
  match h : nextChar? bs with
  | some (c, rest) =>
    have : rest.length < bs.length := length_of_nextChar? h
    decodeOnto (c :: seen) rest
  | none => if bs.isEmpty then some seen.reverse else none
termination_by bs.length

/-- The text of a byte sequence, if it is one. -/
def chars? (bs : Bytes) : Option (List Char) := decodeOnto [] bs

/-- The string of a byte sequence, if it is one. -/
def string? (bs : Bytes) : Option String := (chars? bs).map String.ofList

end Bytes
end Switchyard
