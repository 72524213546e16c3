import Switchyard.Json.Token
import Switchyard.Json.Writer
import Switchyard.Proofs.Text.Utf8

/-!
  Whole numbers of a JSON text are read back.

  A number has no end of its own: it goes on as long as there are digits, and a point or an exponent makes
  another number of it.  So it is read back where something comes after it that does neither, as in an array or
  an object it always does (`Closed`).

  1. The digits of a number in base ten are bytes of digits, and all digits there are up to the end
     (`takeWhile_digits`, `dropWhile_digits`).
  2. A number above zero does not begin with a zero, so that its digits are all taken together
     (`toDigits_cons`).
  3. Read onto what came before, they come to the number that they spell, as long as this fits into a word; on
     the way to it nothing is larger (`wholeDigits_written`).

  The main statement is `readNumeral_written`.
-/

namespace Switchyard.Json

open Bytes (ofChars ofChars_cons)

/-- What may come after a value inside a text, or nothing. -/
def Closed (rest : Bytes) : Prop := ∀ b ∈ rest.head?, b = 0x2C ∨ b = 0x5D ∨ b = 0x7D

/-- Nothing at all may come after a value: that is the end of the text. -/
theorem closed_nil : Closed [] := nofun

variable {n : Nat} {c : Char} {cs : List Char} {rest : Bytes}

/-! ## Digits -/

theorem toNat_of_isDigit (hc : c.isDigit = true) : 48 ≤ c.toNat ∧ c.toNat ≤ 57 := Char.isDigit_iff_toNat.mp hc

/-- The byte of a digit is its code. -/
theorem toNat_digitByte (hc : c.isDigit = true) : (UInt8.ofNat c.toNat).toNat = c.toNat :=
  UInt8.toNat_ofNat_of_lt' (Nat.lt_of_le_of_lt (toNat_of_isDigit hc).2 (by decide))

theorem isDigit_digitByte (hc : c.isDigit = true) : isDigit (UInt8.ofNat c.toNat) = true := by
  obtain ⟨hlow, hhigh⟩ := toNat_of_isDigit hc
  rw [isDigit, Bool.and_eq_true, decide_eq_true_eq, decide_eq_true_eq, UInt8.le_iff_toNat_le,
    UInt8.le_iff_toNat_le, toNat_digitByte hc]
  exact ⟨hlow, hhigh⟩

theorem digitOf_digitByte (hc : c.isDigit = true) : digitOf (UInt8.ofNat c.toNat) = c.toNat - 48 := by
  rw [digitOf, toNat_digitByte hc]

/-- A digit is no blank. -/
theorem isBlank_of_isDigit {b : UInt8} (hb : isDigit b = true) : isBlank b = false := by
  have hlow : 0x30 ≤ b.toNat := by
    rw [isDigit, Bool.and_eq_true, decide_eq_true_eq, UInt8.le_iff_toNat_le] at hb
    exact hb.1
  have hne : ∀ x : UInt8, x.toNat < 0x30 → b ≠ x := by
    rintro x hx rfl
    exact absurd hlow (Nat.not_le.mpr hx)
  simp only [isBlank, hne 0x20 (by decide), hne 0x09 (by decide), hne 0x0A (by decide),
    hne 0x0D (by decide), decide_false, Bool.or_false]

/-- Digits are one byte each. -/
theorem ofChars_digits (hcs : ∀ c ∈ cs, c.isDigit = true) :
    ofChars cs = cs.map fun c => UInt8.ofNat c.toNat :=
  Bytes.ofChars_of_lt fun c hc => Nat.lt_of_le_of_lt (toNat_of_isDigit (hcs c hc)).2 (by decide)

/-- What comes after a value is no digit. -/
theorem Closed.not_isDigit (h : Closed rest) : ∀ b ∈ rest.head?, isDigit b = false := by
  intro b hb
  rcases h b hb with rfl | rfl | rfl <;> rfl

/-- **All digits are taken**, and nothing of what comes after the number. -/
theorem takeWhile_digits (hcs : ∀ c ∈ cs, c.isDigit = true) (hrest : Closed rest) :
    (ofChars cs ++ rest).takeWhile isDigit = ofChars cs := by
  have hall : ∀ b ∈ ofChars cs, isDigit b = true := by
    rw [ofChars_digits hcs]
    exact List.forall_mem_map.mpr fun c hc => isDigit_digitByte (hcs c hc)
  have hnone : rest.takeWhile isDigit = [] := by
    cases rest with
    | nil => rfl
    | cons b rest =>
      exact List.takeWhile_cons_of_neg (by rw [hrest.not_isDigit b rfl]; exact Bool.false_ne_true)
  rw [List.takeWhile_append_of_pos hall, hnone, List.append_nil]

/-- And all of what comes after the number is left. -/
theorem dropWhile_digits (hcs : ∀ c ∈ cs, c.isDigit = true) (hrest : Closed rest) :
    (ofChars cs ++ rest).dropWhile isDigit = rest := by
  have happend := List.takeWhile_append_dropWhile (p := isDigit) (l := ofChars cs ++ rest)
  rw [takeWhile_digits hcs hrest] at happend
  exact List.append_cancel_left happend

/-- A number above zero does not begin with a zero. -/
theorem toDigits_cons (hn : 0 < n) : ∃ c cs, Nat.toDigits 10 n = c :: cs ∧ c ≠ '0' := by
  induction n using Nat.strongRecOn with
  | ind n ih =>
    by_cases hsmall : n < 10
    · refine ⟨n.digitChar, [], Nat.toDigits_of_lt_base hsmall, fun h => ?_⟩
      exact absurd (Nat.digitChar_eq_zero.mp h) (Nat.ne_of_gt hn)
    · obtain ⟨c, cs, hdigits, hc⟩ := ih (n / 10) (by omega) (by omega)
      refine ⟨c, cs ++ [(n % 10).digitChar], ?_, hc⟩
      rw [Nat.toDigits_of_base_le (by decide) (Nat.le_of_not_lt hsmall), hdigits]
      rfl

/-- Reading digits never makes a number smaller. -/
theorem le_ofDigitChars (cs : List Char) (start : Nat) : start ≤ Nat.ofDigitChars 10 cs start := by
  rw [Nat.ofDigitChars_eq_ofDigitChars_zero]
  have hpow : 0 < 10 ^ cs.length := Nat.pow_pos (by decide)
  exact Nat.le_trans (Nat.le_mul_of_pos_left start hpow) (Nat.le_add_right _ _)

/-- Digits that spell a number that fits into a word are all taken, and come to this number. -/
theorem wholeDigits_written {start : Nat} (hcs : ∀ c ∈ cs, c.isDigit = true)
    (hfits : Nat.ofDigitChars 10 cs start ≤ Number.maxWord) :
    wholeDigits (start, 0) ((ofChars cs).map digitOf) = (Nat.ofDigitChars 10 cs start, 0) := by
  induction cs generalizing start with
  | nil => rfl
  | cons c cs ih =>
    obtain ⟨hc, hcs⟩ := List.forall_mem_cons.mp hcs
    rw [Nat.ofDigitChars_cons, Nat.mul_comm 10 start] at hfits ⊢
    have hnext : start * 10 + (c.toNat - 48) ≤ Number.maxWord := Nat.le_trans (le_ofDigitChars cs _) hfits
    rw [ofChars_digits (List.forall_mem_cons.mpr ⟨hc, hcs⟩), List.map_cons, List.map_cons,
      digitOf_digitByte hc, wholeDigits, if_pos ⟨rfl, hnext⟩, ← ofChars_digits hcs]
    exact ih hcs hfits

/-! ## Numbers -/

/-- Where a value may end, whole digits are all there is of a number. -/
theorem readAfterWhole_closed (hrest : Closed rest) : readAfterWhole true n 0 rest = .ok (.int n, rest) := by
  cases rest with
  | nil => rfl
  | cons b rest => rcases hrest b rfl with rfl | rfl | rfl <;> rfl

/-- **A number that fits into a word is read back from its digits**, wherever it ends. -/
theorem readNumeral_written (hn : n ≤ Number.maxWord) (hrest : Closed rest) :
    readNumeral true (ofChars (Nat.toDigits 10 n) ++ rest) = .ok (.int n, rest) := by
  by_cases hzero : n = 0
  · obtain rfl := hzero
    show (if rest.head?.any isDigit = true then _ else readAfterWhole true 0 0 rest) = _
    have hnot : rest.head?.any isDigit = false := by
      rw [Option.any_eq_false]
      exact fun b hb => by rw [hrest.not_isDigit b hb]
    rw [hnot, if_neg Bool.false_ne_true, readAfterWhole_closed hrest]
  · obtain ⟨c, cs, hdigits, hc⟩ := toDigits_cons (Nat.pos_of_ne_zero hzero)
    have hall : ∀ c' ∈ c :: cs, c'.isDigit = true := fun c' hc' =>
      Nat.isDigit_of_mem_toDigits (by decide) (by decide) (hdigits ▸ hc')
    obtain ⟨hfirst, hcs⟩ := List.forall_mem_cons.mp hall
    have hvalue : Nat.ofDigitChars 10 cs (c.toNat - 48) = n := by
      have hspells := Nat.ofDigitChars_ten_toDigits (n := n)
      rw [hdigits, Nat.ofDigitChars_cons, Nat.mul_zero, Nat.zero_add] at hspells
      exact hspells
    have hbyte : UInt8.ofNat c.toNat ≠ 0x30 := by
      intro h
      have hnat : c.toNat = 48 := by
        rw [← toNat_digitByte hfirst, h]
        rfl
      exact hc (Char.toNat_inj.mp hnat)
    have hbytes : ofChars (c :: cs) = UInt8.ofNat c.toNat :: ofChars cs := by
      rw [ofChars_digits hall, ofChars_digits hcs]
      rfl
    rw [hdigits, hbytes, List.cons_append, readNumeral.eq_def]
    split
    · contradiction
    · rename_i h
      exact absurd (List.cons.inj h).1 hbyte
    · rename_i h
      obtain ⟨rfl, rfl⟩ := List.cons.inj h
      rw [if_pos (isDigit_digitByte hfirst)]
      dsimp only
      rw [takeWhile_digits hcs hrest, dropWhile_digits hcs hrest, digitOf_digitByte hfirst,
        wholeDigits_written hcs (hvalue ▸ hn), hvalue, readAfterWhole_closed hrest]

end Switchyard.Json
