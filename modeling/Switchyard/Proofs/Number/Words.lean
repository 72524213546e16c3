import Mathlib.Algebra.Group.Nat.Defs
import Switchyard.Number.Whole

/-!
  Which texts are read as a machine word.

  A text spells a number if it is its digits in base ten, with any number of zeros in front, and with or
  without a plus sign before them (`Spells`).  Reading is the other direction, up to the largest word:

  * `readWord_eq_some_iff` — a number is read from just the texts that spell it and fit into a word.
-/

namespace Switchyard.Number

/-- The text is a number in base ten: digits, at least one, and before them a plus sign or nothing. -/
def Spells (s : String) (n : Nat) : Prop :=
  ∃ digits, (s.toList = digits ∨ s.toList = '+' :: digits) ∧ digits ≠ [] ∧
    (∀ c ∈ digits, c.isDigit = true) ∧ n = Nat.ofDigitChars 10 digits 0

/-- A digit in base ten has the value that its place among the digits gives it; nothing else is one. -/
theorem digitIn?_ten (c : Char) :
    digitIn? 10 c = if c.isDigit then some (c.toNat - '0'.toNat) else none := by
  have hdigit : (decide ('0' ≤ c) && decide (c ≤ '9')) = c.isDigit := rfl
  rw [digitIn?, hdigit]
  by_cases hc : c.isDigit = true
  · have hsmall : c.toNat - '0'.toNat < 10 := by
      have hhigh : c.toNat ≤ 57 := (Char.isDigit_iff_toNat.mp hc).2
      exact Nat.lt_succ_of_le (Nat.sub_le_sub_right hhigh 48)
    rw [if_pos hc, if_pos hc, Option.filter_some, if_pos (decide_eq_true hsmall)]
  · -- the letters stand for ten and more
    have hlarge : ∀ k, Option.filter (· < 10) (some (k + 10)) = none := fun k => by
      rw [Option.filter_some, if_neg]
      exact fun h => absurd (of_decide_eq_true h) (Nat.not_lt.mpr (Nat.le_add_left 10 k))
    rw [if_neg hc, if_neg hc]
    split
    · exact hlarge _
    · split
      · exact hlarge _
      · rfl

/-- Digits are read onto what came before if they are digits, all of them. -/
theorem readDigits_eq_some_iff {start n : Nat} {cs : List Char} :
    readDigits 10 start cs = some n ↔
      (∀ c ∈ cs, c.isDigit = true) ∧ n = Nat.ofDigitChars 10 cs start := by
  induction cs generalizing start with
  | nil =>
    rw [readDigits, Nat.ofDigitChars_nil, Option.some_inj, eq_comm]
    exact (and_iff_right nofun).symm
  | cons c cs ih =>
    rw [readDigits, digitIn?_ten, List.forall_mem_cons, Nat.ofDigitChars_cons, Nat.mul_comm 10 start]
    by_cases hc : c.isDigit = true
    · rw [if_pos hc, Option.bind_some, ih]
      exact ⟨fun h => ⟨⟨hc, h.1⟩, h.2⟩, fun h => ⟨h.1.2, h.2⟩⟩
    · rw [if_neg hc]
      exact ⟨nofun, fun h => absurd h.1.1 hc⟩

/-- A number needs at least one. -/
theorem readNat_eq_some_iff {n : Nat} {cs : List Char} :
    readNat 10 cs = some n ↔
      cs ≠ [] ∧ (∀ c ∈ cs, c.isDigit = true) ∧ n = Nat.ofDigitChars 10 cs 0 := by
  cases cs with
  | nil => exact ⟨nofun, fun h => absurd rfl h.1⟩
  | cons c cs =>
    show readDigits 10 0 (c :: cs) = some n ↔ _
    rw [readDigits_eq_some_iff]
    exact (and_iff_right (List.cons_ne_nil c cs)).symm

/-- **A number is read from the texts that spell it**, if it fits into a word. -/
theorem readWord_eq_some_iff {s : String} {n : Nat} : readWord s = some n ↔ Spells s n ∧ n < 2 ^ 64 := by
  -- what is read as digits, with and without a plus sign
  have hdigits : ∀ digits, (readNat 10 digits).filter (· ≤ maxWord) = some n ↔
      (digits ≠ [] ∧ (∀ c ∈ digits, c.isDigit = true) ∧ n = Nat.ofDigitChars 10 digits 0) ∧ n < 2 ^ 64 := by
    intro digits
    rw [Option.filter_eq_some_iff, readNat_eq_some_iff, decide_eq_true_eq]
    exact and_congr_right' Nat.lt_succ_iff.symm
  have hplus : '+'.isDigit = false := by decide
  rw [readWord]
  split
  · rename_i digits hs
    rw [hdigits, Spells, hs]
    refine and_congr_left' ⟨fun h => ⟨digits, Or.inr rfl, h⟩, ?_⟩
    rintro ⟨digits', rfl | hdigits', hne, hall, hn⟩
    · rw [hall '+' List.mem_cons_self] at hplus
      cases hplus
    · obtain rfl := List.tail_eq_of_cons_eq hdigits'
      exact ⟨hne, hall, hn⟩
  · rename_i hnot
    rw [hdigits, Spells]
    refine and_congr_left' ⟨fun h => ⟨s.toList, Or.inl rfl, h⟩, ?_⟩
    rintro ⟨digits', rfl | hdigits', h⟩
    · exact h
    · exact absurd hdigits' (hnot digits')

end Switchyard.Number
