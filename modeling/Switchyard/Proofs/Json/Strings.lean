import Switchyard.Json.Token
import Switchyard.Json.Writer
import Switchyard.Proofs.Text.Utf8

/-!
  Strings of a JSON text are read back.

  A character of a string is written as itself or as an escape (`isEscaped_or_isKept`).  The bytes of one that is
  written as itself are plain: no quote, no backslash and no control character is among them, so reading takes
  them one by one.  An escape is read as the bytes of its character.  By induction on the characters all of a
  string is read back, and reading ends at the quote that was written after it:

  * `readString_written` — whatever the string is, and whatever follows it.
-/

namespace Switchyard.Json

open Bytes (ofChars ofChars_cons ofChars_append)

/-! ## Steps of reading -/

/-- A byte that stands for itself in a string. -/
def IsPlain (b : UInt8) : Prop := b ≠ 0x22 ∧ b ≠ 0x5C ∧ ¬ b < 0x20

/-- What is left of a string is read onto the bytes seen before it with this result, in all counts of steps that
    cover what is left. -/
def ReadsOnto (seen unread : Bytes) (result : Except Fault (Bytes × Bytes)) : Prop :=
  ∀ steps, unread.length < steps → readStringOnto steps seen unread = result

section Steps

variable {seen unread new : Bytes} {b : UInt8} {result : Except Fault (Bytes × Bytes)}

/-- Reading ends at a quote. -/
theorem readsOnto_quote (seen unread : Bytes) :
    ReadsOnto seen (0x22 :: unread) (.ok (seen.reverse, unread)) := by
  intro steps hsteps
  cases steps with
  | zero => exact absurd hsteps (Nat.not_lt_zero _)
  | succ steps => rw [readStringOnto, if_pos rfl]

theorem ReadsOnto.plain (hb : IsPlain b) (h : ReadsOnto (b :: seen) unread result) :
    ReadsOnto seen (b :: unread) result := by
  intro steps hsteps
  cases steps with
  | zero => exact absurd hsteps (Nat.not_lt_zero _)
  | succ steps =>
    obtain ⟨hquote, hbackslash, hcontrol⟩ := hb
    rw [readStringOnto, if_neg hquote, if_neg hbackslash, if_neg hcontrol]
    exact h steps (Nat.lt_of_succ_lt_succ hsteps)

/-- Plain bytes are taken one after another. -/
theorem ReadsOnto.plains {bs : Bytes} (hbs : ∀ b ∈ bs, IsPlain b)
    (h : ReadsOnto (bs.reverse ++ seen) unread result) : ReadsOnto seen (bs ++ unread) result := by
  induction bs generalizing seen with
  | nil => exact h
  | cons b bs ih =>
    obtain ⟨hb, hbs⟩ := List.forall_mem_cons.mp hbs
    rw [List.reverse_cons, List.append_assoc] at h
    exact .plain hb (ih hbs h)

/-- An escape is taken as what it stands for. -/
theorem ReadsOnto.escape {e : Bytes} (he : readEscape (e ++ unread) = .ok (new, unread))
    (h : ReadsOnto (new.reverse ++ seen) unread result) : ReadsOnto seen (0x5C :: (e ++ unread)) result := by
  intro steps hsteps
  cases steps with
  | zero => exact absurd hsteps (Nat.not_lt_zero _)
  | succ steps =>
    have hleft : unread.length < steps := by
      rw [List.length_cons, List.length_append] at hsteps
      omega
    rw [readStringOnto, if_neg (by decide), if_pos rfl, he]
    exact h steps hleft

end Steps

/-! ## Escapes -/

theorem readHexWord_of_eq_some {w x y z : UInt8} {n : Nat} (h : hexWord? [w, x, y, z] = some n) (rest : Bytes) :
    readHexWord (w :: x :: y :: z :: rest) = .ok (n, rest) := by
  rw [readHexWord, h]

/-- A number in four digits stands for its character. -/
theorem readEscape_word {w x y z : UInt8} {c : Char} (hword : hexWord? [w, x, y, z] = some c.toNat)
    (hc : c.toNat < 0xD800) (rest : Bytes) :
    readEscape (0x75 :: w :: x :: y :: z :: rest) = .ok (ofChars [c], rest) := by
  have hnone : shortEscape? 0x75 = none := by decide
  have hlone : ¬ (0xDC00 ≤ c.toNat ∧ c.toNat ≤ 0xDFFF) := by omega
  have hvalid : c.toNat < 0xD800 ∨ 0xDBFF < c.toNat := Or.inl hc
  rw [readEscape, hnone]
  simp only [ne_eq, not_true_eq_false, if_false, readHexWord_of_eq_some hword rest, bind, Except.bind]
  rw [if_neg hlone, if_pos hvalid, Char.ofNat_toNat]

theorem hexDigit_lt : ∀ n < 16, (hexDigit n).toNat < 0x80 := by decide

/-- A control character is told by its number in four digits. -/
theorem hexWord?_control : ∀ n < 32,
    hexWord? (ofChars ['0', '0', hexDigit (n / 16), hexDigit (n % 16)]) = some n := by decide

/-- The escape of a control character is read as the character. -/
theorem readEscape_control {c : Char} (hc : c.toNat < 32) (rest : Bytes) :
    readEscape (ofChars ['u', '0', '0', hexDigit (c.toNat / 16), hexDigit (c.toNat % 16)] ++ rest)
      = .ok (ofChars [c], rest) := by
  have hdigits : ∀ d ∈ ['0', '0', hexDigit (c.toNat / 16), hexDigit (c.toNat % 16)], d.toNat < 0x80 := by
    have hhigh := hexDigit_lt (c.toNat / 16) (by omega)
    have hlow := hexDigit_lt (c.toNat % 16) (by omega)
    simp only [List.forall_mem_cons]
    exact ⟨by decide, by decide, hhigh, hlow, List.forall_mem_nil _⟩
  have hword := hexWord?_control c.toNat hc
  rw [Bytes.ofChars_of_lt hdigits] at hword
  rw [ofChars_cons, Bytes.ofChars_of_lt hdigits]
  exact readEscape_word hword (by omega) rest

/-! ## Characters -/

/-- A character is written as an escape that is read as its bytes. -/
def IsEscaped (c : Char) : Prop :=
  ∃ e, writeChar c = '\\' :: e ∧ ∀ rest, readEscape (ofChars e ++ rest) = .ok (ofChars [c], rest)

/-- A character is written as itself, in plain bytes. -/
def IsKept (c : Char) : Prop := writeChar c = [c] ∧ ∀ b ∈ ofChars [c], IsPlain b

/-- The characters whose escape is a single letter or sign after the backslash. -/
def shortEscaped : List Char := ['"', '\\', '\n', '\r', '\t', '\x08', '\x0c']

theorem isEscaped_of_mem : ∀ c ∈ shortEscaped, IsEscaped c := by
  simp only [shortEscaped, List.forall_mem_cons]
  exact ⟨⟨_, rfl, fun _ => rfl⟩, ⟨_, rfl, fun _ => rfl⟩, ⟨_, rfl, fun _ => rfl⟩, ⟨_, rfl, fun _ => rfl⟩,
    ⟨_, rfl, fun _ => rfl⟩, ⟨_, rfl, fun _ => rfl⟩, ⟨_, rfl, fun _ => rfl⟩, List.forall_mem_nil _⟩

/-- Of the other characters the controls are told by their number. -/
theorem writeChar_of_not_mem {c : Char} (h : c ∉ shortEscaped) :
    writeChar c = if c.toNat < 32 then ['\\', 'u', '0', '0', hexDigit (c.toNat / 16), hexDigit (c.toNat % 16)]
      else [c] := by
  simp only [shortEscaped, List.mem_cons, List.not_mem_nil, not_or] at h
  obtain ⟨hquote, hbackslash, hfeed, hreturn, htab, hback, hform, -⟩ := h
  have hback : c.toNat ≠ 8 := fun h => hback (by rw [← Char.ofNat_toNat c, h])
  have hform : c.toNat ≠ 12 := fun h => hform (by rw [← Char.ofNat_toNat c, h])
  rw [writeChar, if_neg hquote, if_neg hbackslash, if_neg hfeed, if_neg hreturn, if_neg htab, if_neg hback,
    if_neg hform]

theorem isPlain_of_toNat {b : UInt8} (hquote : b.toNat ≠ 0x22) (hbackslash : b.toNat ≠ 0x5C)
    (hleast : 0x20 ≤ b.toNat) : IsPlain b := by
  refine ⟨?_, ?_, ?_⟩
  · rintro rfl
    exact hquote rfl
  · rintro rfl
    exact hbackslash rfl
  · rw [UInt8.lt_iff_toNat_lt]
    exact Nat.not_lt.mpr hleast

/-- The bytes of a character that needs no escape are plain. -/
theorem isPlain_of_mem_ofChars {c : Char} (hquote : c ≠ '"') (hbackslash : c ≠ '\\') (hleast : 32 ≤ c.toNat) :
    ∀ b ∈ ofChars [c], IsPlain b := by
  intro b hb
  have hb : b ∈ String.utf8EncodeChar c := by rwa [← List.append_nil (String.utf8EncodeChar c)]
  rcases Bytes.byte_of_mem_utf8EncodeChar hb with ⟨rfl, hlow⟩ | hhigh
  · have hnat : (UInt8.ofNat c.toNat).toNat = c.toNat := UInt8.toNat_ofNat_of_lt' (Nat.lt_trans hlow (by decide))
    refine isPlain_of_toNat ?_ ?_ ?_
    · intro h
      exact hquote (by rw [← Char.ofNat_toNat c, ← hnat, h])
    · intro h
      exact hbackslash (by rw [← Char.ofNat_toNat c, ← hnat, h])
    · rw [hnat]
      exact hleast
  · exact isPlain_of_toNat (by omega) (by omega) (by omega)

/-- **A character of a string is written as an escape, or as itself in plain bytes.** -/
theorem isEscaped_or_isKept (c : Char) : IsEscaped c ∨ IsKept c := by
  by_cases hmem : c ∈ shortEscaped
  · exact Or.inl (isEscaped_of_mem c hmem)
  have hwrite := writeChar_of_not_mem hmem
  by_cases hcontrol : c.toNat < 32
  · rw [if_pos hcontrol] at hwrite
    exact Or.inl ⟨_, hwrite, readEscape_control hcontrol⟩
  · rw [if_neg hcontrol] at hwrite
    have hquote : c ≠ '"' := fun h => hmem (h ▸ by decide)
    have hbackslash : c ≠ '\\' := fun h => hmem (h ▸ by decide)
    exact Or.inr ⟨hwrite, isPlain_of_mem_ofChars hquote hbackslash (Nat.not_lt.mp hcontrol)⟩

/-! ## Strings -/

section Reading

variable {seen unread : Bytes} {result : Except Fault (Bytes × Bytes)}

/-- What is written for a character is read as its bytes. -/
theorem ReadsOnto.char {c : Char} (h : ReadsOnto ((ofChars [c]).reverse ++ seen) unread result) :
    ReadsOnto seen (ofChars (writeChar c) ++ unread) result := by
  rcases isEscaped_or_isKept c with ⟨e, hwrite, hread⟩ | ⟨hwrite, hplain⟩
  · rw [hwrite]
    exact .escape (hread unread) h
  · rw [hwrite]
    exact .plains hplain h

/-- And so is what is written for all characters of a string; this is by induction on them. -/
theorem ReadsOnto.chars {cs : List Char} (h : ReadsOnto ((ofChars cs).reverse ++ seen) unread result) :
    ReadsOnto seen (ofChars (cs.flatMap writeChar) ++ unread) result := by
  induction cs generalizing seen with
  | nil => exact h
  | cons c cs ih =>
    have hsplit : ofChars (c :: cs) = ofChars [c] ++ ofChars cs := ofChars_append [c] cs
    rw [hsplit, List.reverse_append, List.append_assoc] at h
    rw [List.flatMap_cons, ofChars_append, List.append_assoc]
    exact .char (ih h)

end Reading

/-- **A string is read back** up to the quote after it, whatever its characters are and whatever follows. -/
theorem readString_written (s : String) (rest : Bytes) :
    readString (ofChars (s.toList.flatMap writeChar) ++ 0x22 :: rest) = .ok (s, rest) := by
  have hall : ReadsOnto [] (ofChars (s.toList.flatMap writeChar) ++ 0x22 :: rest)
      (.ok (ofChars s.toList, rest)) := by
    have hend := readsOnto_quote (ofChars s.toList).reverse rest
    rw [List.reverse_reverse] at hend
    exact .chars (by rwa [List.append_nil])
  have htext : Bytes.string? (ofChars s.toList) = some s := Bytes.string?_ofString s
  rw [readString, hall _ (Nat.lt_succ_self _)]
  simp only [bind, Except.bind, htext]

/-- The bytes of a string with its quotes. -/
theorem ofChars_writeString (s : String) (rest : Bytes) :
    ofChars (writeString s) ++ rest = 0x22 :: (ofChars (s.toList.flatMap writeChar) ++ 0x22 :: rest) := by
  rw [writeString, List.cons_append, ofChars_cons, ofChars_append, List.append_assoc, List.append_assoc]
  rfl

end Switchyard.Json
