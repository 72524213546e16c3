import Switchyard.Bytes

/-!
  Text as bytes, and back.

  A character is written in one to four bytes.  The first byte of a longer form tells how many follow and holds the
  highest bits, and each byte that follows holds six more (`Form`).

  * `form_utf8EncodeChar`      — a character outside of the basic set is written in such a form;
  * `byte_of_mem_utf8EncodeChar` — no byte of such a form is a character by itself;
  * `nextChar?_utf8EncodeChar` — the first character of what is written is read back;
  * `string?_ofString`         — and so is every text.
-/

namespace Switchyard.Bytes

theorem ofChars_cons (c : Char) (cs : List Char) : ofChars (c :: cs) = String.utf8EncodeChar c ++ ofChars cs := rfl

/-- The bytes of two texts one after the other come one after the other. -/
theorem ofChars_append (cs ds : List Char) : ofChars (cs ++ ds) = ofChars cs ++ ofChars ds := List.flatMap_append

/-! ## One byte -/

theorem utf8EncodeChar_of_lt {c : Char} (h : c.toNat < 0x80) :
    String.utf8EncodeChar c = [UInt8.ofNat c.toNat] := by
  have hlow : c.val.toNat ≤ 0x7f := Nat.le_of_lt_succ h
  rw [String.utf8EncodeChar, if_pos hlow]
  rfl

/-- Characters of the basic set are their bytes. -/
theorem ofChars_of_lt {cs : List Char} (h : ∀ c ∈ cs, c.toNat < 0x80) :
    ofChars cs = cs.map fun c => UInt8.ofNat c.toNat := by
  induction cs with
  | nil => rfl
  | cons c cs ih =>
    obtain ⟨hc, hcs⟩ := List.forall_mem_cons.mp h
    rw [ofChars_cons, utf8EncodeChar_of_lt hc, ih hcs]
    rfl

/-- A character of the basic set is read back from its byte. -/
theorem nextChar?_ofNat {c : Char} (h : c.toNat < 0x80) (rest : Bytes) :
    nextChar? (UInt8.ofNat c.toNat :: rest) = some (c, rest) := by
  have hnat : (UInt8.ofNat c.toNat).toNat = c.toNat := UInt8.toNat_ofNat_of_lt' (Nat.lt_trans h (by decide))
  have hlow : UInt8.ofNat c.toNat < 0x80 := by
    rw [UInt8.lt_iff_toNat_lt, hnat]
    exact h
  rw [nextChar?, if_pos hlow, hnat, Char.ofNat_toNat]

/-! ## Several bytes -/

/-- A byte that follows holds six bits. -/
theorem continuation?_ofNat : ∀ x < 0x40, continuation? (UInt8.ofNat (x + 0x80)) = some x := by decide

/-- The leading byte of each longer form tells how many bytes follow, and its own bits. -/
theorem lead?_two : ∀ x < 0x20, lead? (UInt8.ofNat (x + 0xC0)) = some (1, x, 0x80) := by decide

theorem lead?_three : ∀ x < 0x10, lead? (UInt8.ofNat (x + 0xE0)) = some (2, x, 0x800) := by decide

theorem lead?_four : ∀ x < 0x08, lead? (UInt8.ofNat (x + 0xF0)) = some (3, x, 0x10000) := by decide

/-- Bytes that follow add six bits each to what is there already. -/
theorem continue?_map {xs : List Nat} (hxs : ∀ x ∈ xs, x < 0x40) (n : Nat) (rest : Bytes) :
    continue? xs.length n ((xs.map fun x => UInt8.ofNat (x + 0x80)) ++ rest)
      = some (xs.foldl (fun m x => m * 64 + x) n, rest) := by
  induction xs generalizing n with
  | nil => rw [List.length_nil, continue?]; rfl
  | cons x xs ih =>
    obtain ⟨hx, hxs⟩ := List.forall_mem_cons.mp hxs
    rw [List.length_cons, List.map_cons, List.cons_append, continue?, continuation?_ofNat x hx]
    exact ih hxs (n * 64 + x)

/-- Bytes are the longer form of a code point: the first says how many follow, the following ones complete the
    code point, and it is not so small that a shorter form would do. -/
structure Form (n : Nat) (first : UInt8) (following : Bytes) : Prop where
  /-- What the first byte says, and the following ones add. -/
  reads : ∃ start least, lead? first = some (following.length, start, least) ∧ least ≤ n ∧
    ∀ rest, continue? following.length start (following ++ rest) = some (n, rest)
  high : ∀ b ∈ first :: following, 0x80 ≤ b.toNat

/-- The bytes of the longer forms are all above the basic set. -/
theorem high_ofNat {x base : Nat} (hbase : 0x80 ≤ base) (h : x + base < 0x100) :
    0x80 ≤ (UInt8.ofNat (x + base)).toNat := by
  rw [UInt8.toNat_ofNat_of_lt' h]
  omega

/-- A form is put together from the bits of its first byte and six bits for each byte that follows. -/
theorem form_of_bits {n start base least : Nat} {xs : List Nat}
    (hlead : lead? (UInt8.ofNat (start + base)) = some (xs.length, start, least)) (hleast : least ≤ n)
    (hbase : 0x80 ≤ base) (hstart : start + base < 0x100) (hxs : ∀ x ∈ xs, x < 0x40)
    (hwhole : xs.foldl (fun m x => m * 64 + x) start = n) :
    Form n (UInt8.ofNat (start + base)) (xs.map fun x => UInt8.ofNat (x + 0x80)) where
  reads := by
    refine ⟨start, least, ?_, hleast, fun rest => ?_⟩
    · rw [List.length_map]
      exact hlead
    · rw [List.length_map, continue?_map hxs, hwhole]
  high := by
    refine List.forall_mem_cons.mpr ⟨high_ofNat hbase hstart, List.forall_mem_map.mpr fun x hx => ?_⟩
    have hsix := hxs x hx
    exact high_ofNat (Nat.le_refl _) (by omega)

section Forms

variable {n : Nat}

/-- A character beyond the basic set has the form of two bytes. -/
theorem form_two (hleast : 0x80 ≤ n) (hmost : n < 0x800) :
    Form n (UInt8.ofNat (n / 64 % 32 + 192)) [UInt8.ofNat (n % 64 + 128)] := by
  have hxs : ∀ x ∈ [n % 64], x < 0x40 := by
    simp only [List.forall_mem_cons]
    exact ⟨by omega, List.forall_mem_nil _⟩
  have hwhole : n / 64 % 32 * 64 + n % 64 = n := by omega
  exact form_of_bits (lead?_two _ (by omega)) hleast (by decide) (by omega) hxs hwhole

/-- One that does not fit there has the form of three. -/
theorem form_three (hleast : 0x800 ≤ n) (hmost : n < 0x10000) :
    Form n (UInt8.ofNat (n / 4096 % 16 + 224)) [UInt8.ofNat (n / 64 % 64 + 128), UInt8.ofNat (n % 64 + 128)] := by
  have hxs : ∀ x ∈ [n / 64 % 64, n % 64], x < 0x40 := by
    simp only [List.forall_mem_cons]
    exact ⟨by omega, by omega, List.forall_mem_nil _⟩
  have hwhole : (n / 4096 % 16 * 64 + n / 64 % 64) * 64 + n % 64 = n := by omega
  exact form_of_bits (lead?_three _ (by omega)) hleast (by decide) (by omega) hxs hwhole

/-- And all others have the form of four, up to the last code point. -/
theorem form_four (hleast : 0x10000 ≤ n) (hmost : n < 0x110000) :
    Form n (UInt8.ofNat (n / 262144 % 8 + 240))
      [UInt8.ofNat (n / 4096 % 64 + 128), UInt8.ofNat (n / 64 % 64 + 128), UInt8.ofNat (n % 64 + 128)] := by
  have hxs : ∀ x ∈ [n / 4096 % 64, n / 64 % 64, n % 64], x < 0x40 := by
    simp only [List.forall_mem_cons]
    exact ⟨by omega, by omega, by omega, List.forall_mem_nil _⟩
  have hwhole : ((n / 262144 % 8 * 64 + n / 4096 % 64) * 64 + n / 64 % 64) * 64 + n % 64 = n := by omega
  exact form_of_bits (lead?_four _ (by omega)) hleast (by decide) (by omega) hxs hwhole

end Forms

/-- **A character outside of the basic set is written in a longer form.** -/
theorem form_utf8EncodeChar {c : Char} (h : 0x80 ≤ c.toNat) :
    ∃ first following, String.utf8EncodeChar c = first :: following ∧ Form c.toNat first following := by
  have hmost : c.toNat < 0x110000 := by
    rcases c.valid with hlow | ⟨-, hhigh⟩
    · exact Nat.lt_trans hlow (by decide)
    · exact hhigh
  have hval : c.val.toNat = c.toNat := rfl
  rw [String.utf8EncodeChar]
  rw [hval, if_neg (Nat.not_le_of_lt h)]
  by_cases htwo : c.toNat ≤ 0x7ff
  · rw [if_pos htwo]
    exact ⟨_, _, rfl, form_two h (Nat.lt_succ_of_le htwo)⟩
  rw [if_neg htwo]
  by_cases hthree : c.toNat ≤ 0xffff
  · rw [if_pos hthree]
    exact ⟨_, _, rfl, form_three (Nat.lt_of_not_le htwo) (Nat.lt_succ_of_le hthree)⟩
  · rw [if_neg hthree]
    exact ⟨_, _, rfl, form_four (Nat.lt_of_not_le hthree) hmost⟩

/-- A byte of a character is that of the character itself, if it is in the basic set, and none of that set
    otherwise. -/
theorem byte_of_mem_utf8EncodeChar {c : Char} {b : UInt8} (hb : b ∈ String.utf8EncodeChar c) :
    b = UInt8.ofNat c.toNat ∧ c.toNat < 0x80 ∨ 0x80 ≤ b.toNat := by
  by_cases h : c.toNat < 0x80
  · rw [utf8EncodeChar_of_lt h] at hb
    exact Or.inl ⟨List.mem_singleton.mp hb, h⟩
  · obtain ⟨first, following, hbytes, hform⟩ := form_utf8EncodeChar (Nat.le_of_not_lt h)
    rw [hbytes] at hb
    exact Or.inr (hform.high b hb)

/-! ## Reading back -/

/-- **The first character of what is written is read back.** -/
theorem nextChar?_utf8EncodeChar (c : Char) (rest : Bytes) :
    nextChar? (String.utf8EncodeChar c ++ rest) = some (c, rest) := by
  by_cases h : c.toNat < 0x80
  · rw [utf8EncodeChar_of_lt h]
    exact nextChar?_ofNat h rest
  · obtain ⟨first, following, hbytes, hform⟩ := form_utf8EncodeChar (Nat.le_of_not_lt h)
    obtain ⟨start, least, hlead, hleast, hcontinue⟩ := hform.reads
    have hhigh : ¬ first < 0x80 := by
      rw [UInt8.lt_iff_toNat_lt]
      exact Nat.not_lt.mpr (hform.high first List.mem_cons_self)
    have hvalid : c.toNat.isValidChar := c.valid
    rw [hbytes, List.cons_append, nextChar?, if_neg hhigh, hlead]
    show (continue? following.length start (following ++ rest)).bind _ = _
    rw [hcontinue rest]
    show (if least ≤ c.toNat ∧ c.toNat.isValidChar then some (Char.ofNat c.toNat, rest) else none) = _
    rw [if_pos ⟨hleast, hvalid⟩, Char.ofNat_toNat]

theorem decodeOnto_of_nextChar? {seen : List Char} {bs rest : Bytes} {c : Char} (h : nextChar? bs = some (c, rest)) :
    decodeOnto seen bs = decodeOnto (c :: seen) rest := by
  rw [decodeOnto]
  split
  · rename_i c' rest' hread
    obtain ⟨rfl, rfl⟩ := Prod.mk.inj (Option.some.inj (h.symm.trans hread))
    rfl
  · rename_i hread
    exact absurd (h.symm.trans hread) (Option.some_ne_none _)

/-- **A text is read back from its bytes**, onto whatever was read before. -/
theorem decodeOnto_ofChars (seen cs : List Char) : decodeOnto seen (ofChars cs) = some (seen.reverse ++ cs) := by
  induction cs generalizing seen with
  | nil =>
    rw [decodeOnto]
    exact congrArg some (List.append_nil _).symm
  | cons c cs ih =>
    rw [ofChars_cons, decodeOnto_of_nextChar? (nextChar?_utf8EncodeChar c (ofChars cs)), ih, List.reverse_cons,
      List.append_assoc]
    rfl

/-- **Every text is read back from its bytes.** -/
theorem string?_ofString (s : String) : string? (ofString s) = some s := by
  have hchars : chars? (ofString s) = some s.toList := decodeOnto_ofChars [] s.toList
  rw [string?, hchars, Option.map_some, String.ofList_toList]

end Switchyard.Bytes
