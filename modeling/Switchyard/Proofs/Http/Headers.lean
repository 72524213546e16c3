import Switchyard.Http.Message
import Switchyard.Http.RequestId
import Switchyard.Proofs.Text.Utf8

/-!
  Header values as text.

  A value is readable if its bytes stand for visible characters of the basic set, and then they are the
  bytes of the text that is read (`headerText?_eq_some_iff`).  So a readable text is read back from a header
  that it was put into.

  * `getAll_insert`, `getAll_insert_of_ne` — what is inserted under a name is the only value there, and every
    other name keeps its values;
  * `getAll_remove`, `getAll_remove_of_ne` — the same for what is removed;
  * `headerValue?_of_readable`     — a readable text can be put into a header;
  * `IsUuidChar.readable`          — and the text of a UUID is readable, such as those of the supply for runs
    that are to be repeated (`isUuidChar_nthRequestId`).
-/

namespace Switchyard.Http

namespace Headers

variable (h : Headers) (name : String) (value : Bytes)

/-- What is removed under a name is not there any more. -/
theorem getAll_remove : (h.remove name).getAll name = [] := by
  have hnone : (h.remove name).fields.filter (fun f => f.1 = name) = [] := by
    refine List.filter_eq_nil_iff.mpr fun f hf => ?_
    simpa using (List.mem_filter.mp hf).2
  rw [getAll, hnone]
  rfl

/-- What is removed under a name leaves the values of every other name as they are. -/
theorem getAll_remove_of_ne {other : String} (hne : other ≠ name) :
    (h.remove name).getAll other = h.getAll other := by
  have hkept : (h.remove name).fields.filter (fun f => f.1 = other)
      = h.fields.filter fun f => f.1 = other := by
    show (h.fields.filter _).filter _ = _
    rw [List.filter_filter]
    refine List.filter_congr fun f _ => ?_
    by_cases hf : f.1 = other
    · simp [hf, hne]
    · simp [hf]
  rw [getAll, hkept]
  rfl

/-- What is appended under a name comes behind the values there. -/
theorem getAll_append (other : String) :
    (h.append name value).getAll other = h.getAll other ++ if name = other then [value] else [] := by
  show ((h.fields ++ [(name, value)]).filter _).map _ = _
  rw [List.filter_append, List.map_append]
  by_cases hname : name = other
  · rw [if_pos hname, List.filter_cons_of_pos (by simpa using hname)]
    rfl
  · rw [if_neg hname, List.filter_cons_of_neg (by simpa using hname)]
    rfl

/-- **What is inserted under a name is the only value there.** -/
theorem getAll_insert : (h.insert name value).getAll name = [value] := by
  rw [insert, getAll_append, getAll_remove, if_pos rfl]
  rfl

/-- What is inserted under a name leaves the values of every other name as they are. -/
theorem getAll_insert_of_ne {other : String} (hne : other ≠ name) :
    (h.insert name value).getAll other = h.getAll other := by
  rw [insert, getAll_append, getAll_remove_of_ne h name hne, if_neg hne.symm, List.append_nil]

theorem get?_eq_head? : h.get? name = (h.getAll name).head? := by
  rw [get?, getAll, List.head?_map, List.head?_filter]

end Headers

/-! ## Readable text -/

/-- A character of readable text: a tab, or a visible one of the basic set. -/
def Readable (c : Char) : Prop := c.toNat = 9 ∨ 32 ≤ c.toNat ∧ c.toNat < 127

theorem isReadableByte_iff {b : UInt8} :
    isReadableByte b = true ↔ b.toNat = 9 ∨ 32 ≤ b.toNat ∧ b.toNat < 127 := by
  have h9 : b = 9 ↔ b.toNat = 9 := ⟨fun h => h ▸ rfl, fun h => UInt8.toNat_inj.mp h⟩
  simp [isReadableByte, h9, UInt8.le_iff_toNat_le, UInt8.lt_iff_toNat_lt]

/-- A readable byte may stand in a header value. -/
theorem isHeaderByte_of_isReadableByte {b : UInt8} (h : isReadableByte b = true) : isHeaderByte b = true := by
  rw [isReadableByte, Bool.or_eq_true, Bool.and_eq_true, decide_eq_true_eq, decide_eq_true_eq,
    decide_eq_true_eq] at h
  rw [isHeaderByte, Bool.or_eq_true, Bool.and_eq_true, decide_eq_true_eq, decide_eq_true_eq,
    decide_eq_true_eq]
  refine h.imp id fun ⟨hlow, hhigh⟩ => ⟨hlow, ?_⟩
  rintro rfl
  exact absurd hhigh (by decide)

/-- The byte of a readable character is readable, and is read as this character. -/
theorem readable_byte {c : Char} (h : Readable c) :
    isReadableByte (UInt8.ofNat c.toNat) = true ∧ Char.ofNat (UInt8.ofNat c.toNat).toNat = c := by
  have hlow : c.toNat < 2 ^ 8 := by
    rw [Readable] at h
    omega
  have hnat : (UInt8.ofNat c.toNat).toNat = c.toNat := UInt8.toNat_ofNat_of_lt' hlow
  refine ⟨?_, ?_⟩
  · rw [isReadableByte_iff, hnat]
    exact h
  · rw [hnat, Char.ofNat_toNat]

/-- A readable byte is that of a readable character. -/
theorem readable_of_byte {b : UInt8} (h : isReadableByte b = true) :
    Readable (Char.ofNat b.toNat) ∧ UInt8.ofNat (Char.ofNat b.toNat).toNat = b := by
  have hvalid : b.toNat.isValidChar := Or.inl (Nat.lt_trans b.toNat_lt (by decide))
  have hnat : (Char.ofNat b.toNat).toNat = b.toNat := by
    rw [Char.ofNat, dif_pos hvalid]
    rfl
  rw [Readable, hnat]
  exact ⟨isReadableByte_iff.mp h, UInt8.ofNat_toNat⟩

/-- Readable characters are written as the bytes of their numbers. -/
theorem ofChars_eq_map {cs : List Char} (h : ∀ c ∈ cs, Readable c) :
    Bytes.ofChars cs = cs.map fun c => UInt8.ofNat c.toNat := by
  refine Bytes.ofChars_of_lt fun c hc => ?_
  have hreadable := h c hc
  rw [Readable] at hreadable
  omega

/-- **Bytes are read as a text if they are the bytes of this text, and the text is readable.** -/
theorem headerText?_eq_some_iff {bs : Bytes} {s : String} :
    headerText? bs = some s ↔ bs = Bytes.ofString s ∧ ∀ c ∈ s.toList, Readable c := by
  rw [headerText?, Bytes.ofString]
  constructor
  · intro h
    obtain ⟨hall, hread⟩ := Option.ite_none_right_eq_some.mp h
    obtain rfl := Option.some.inj hread
    have hbytes := List.all_eq_true.mp hall
    rw [String.toList_ofList]
    have hreadable : ∀ c ∈ bs.map fun b => Char.ofNat b.toNat, Readable c :=
      List.forall_mem_map.mpr fun b hb => (readable_of_byte (hbytes b hb)).1
    refine ⟨?_, hreadable⟩
    rw [ofChars_eq_map hreadable, List.map_map]
    calc bs
        = bs.map id := (List.map_id bs).symm
      _ = bs.map ((fun c => UInt8.ofNat c.toNat) ∘ fun b => Char.ofNat b.toNat) :=
        List.map_congr_left fun b hb => (readable_of_byte (hbytes b hb)).2.symm
  · rintro ⟨rfl, hreadable⟩
    have hall : (s.toList.map fun c => UInt8.ofNat c.toNat).all isReadableByte = true :=
      List.all_eq_true.mpr (List.forall_mem_map.mpr fun c hc => (readable_byte (hreadable c hc)).1)
    have hback : (s.toList.map fun c => UInt8.ofNat c.toNat).map (fun b => Char.ofNat b.toNat) = s.toList := by
      rw [List.map_map]
      calc s.toList.map ((fun b : UInt8 => Char.ofNat b.toNat) ∘ fun c => UInt8.ofNat c.toNat)
          = s.toList.map id := List.map_congr_left fun c hc => (readable_byte (hreadable c hc)).2
        _ = s.toList := List.map_id _
    rw [ofChars_eq_map hreadable, if_pos hall, hback, String.ofList_toList]

/-- **A readable text can be a header value.** -/
theorem headerValue?_of_readable {s : String} (h : ∀ c ∈ s.toList, Readable c) :
    headerValue? s = some (Bytes.ofString s) := by
  have hall : isHeaderValue (Bytes.ofString s) = true := by
    rw [Bytes.ofString, ofChars_eq_map h]
    refine List.all_eq_true.mpr (List.forall_mem_map.mpr fun c hc => ?_)
    exact isHeaderByte_of_isReadableByte (readable_byte (h c hc)).1
  rw [headerValue?, if_pos hall]

/-- **Bytes can be read as a text if every one of them is readable.** -/
theorem exists_headerText?_iff {bs : Bytes} :
    (∃ s, headerText? bs = some s) ↔ ∀ b ∈ bs, b.toNat = 9 ∨ 32 ≤ b.toNat ∧ b.toNat < 127 := by
  have hall : bs.all isReadableByte = true ↔ ∀ b ∈ bs, b.toNat = 9 ∨ 32 ≤ b.toNat ∧ b.toNat < 127 := by
    simp only [List.all_eq_true, isReadableByte_iff]
  rw [← hall]
  exact ⟨fun ⟨_, h⟩ => (Option.ite_none_right_eq_some.mp h).1, fun h => ⟨_, if_pos h⟩⟩

/-! ## Generated ids -/

/-- A character that the text of a UUID may have: a hyphen, a digit, or a letter from `a` to `f`. -/
def IsUuidChar (c : Char) : Prop :=
  c.toNat = 45 ∨ 48 ≤ c.toNat ∧ c.toNat ≤ 57 ∨ 97 ≤ c.toNat ∧ c.toNat ≤ 102

/-- The text of a UUID can be read, so it can be a header value. -/
theorem IsUuidChar.readable {c : Char} (h : IsUuidChar c) : Readable c := by
  rw [IsUuidChar] at h
  exact Or.inr ⟨by omega, by omega⟩

/-- The supply of ids for runs that are to be repeated has texts of UUIDs only. -/
theorem isUuidChar_nthRequestId (n : Nat) : ∀ c ∈ (nthRequestId n).toList, IsUuidChar c := by
  have hstem : ∀ c ∈ requestIdStem.toList, IsUuidChar c := by
    simp [requestIdStem, IsUuidChar]
  rw [nthRequestId, padded, String.toList_append, String.toList_ofList]
  refine List.forall_mem_append.mpr ⟨hstem, List.forall_mem_append.mpr ⟨fun c hc => ?_, fun c hc => ?_⟩⟩
  · rw [List.eq_of_mem_replicate hc]
    exact Or.inr (Or.inl (by decide))
  · have hdigit := Nat.isDigit_of_mem_toDigits (by decide) (by decide) hc
    exact Or.inr (Or.inl (Char.isDigit_iff_toNat.mp hdigit))

end Switchyard.Http
