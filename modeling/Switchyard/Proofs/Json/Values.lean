import Switchyard.Json.Reader
import Switchyard.Json.Writer
import Switchyard.Proofs.Json.Numbers
import Switchyard.Proofs.Json.Strings

/-!
  Values of a JSON text are read back.

  A value is read back if its text begins like a value, and is read as that value wherever one may end
  (`ReadsBack`).  What comes after a value inside a text is a comma or the end of an array or of an object, so
  that values may be put into arrays and objects again.

  1. **Scalars.**  Strings are read back, and so are whole numbers that fit into a word (`readsBack_string`,
     `readsBack_nat`).
  2. **Arrays and objects.**  An array is read back if its items are, and an object if its values are and its
     members are in the order of their names (`readsBack_array`, `readsBack_object`).  What this takes is one
     level more, and one step for each item or member beside those of the deepest.
  3. **Whole texts.**  A whole text is read back within the bounds of the reader (`ReadsBack.parse`).
-/

namespace Switchyard.Json

open Bytes (ofChars ofChars_cons ofChars_append)

/-- The text of a value begins like a value, and is read as that value with at least so many levels and steps,
    wherever it may end. -/
structure ReadsBack (levels needs : Nat) (v : Json) : Prop where
  /-- Neither a blank nor the end of an array comes first. -/
  begins : ∃ b bs, ofChars v.write = b :: bs ∧ isBlank b = false ∧ b ≠ 0x5D
  reads : ∀ steps depth rest, needs ≤ steps → levels ≤ depth → Closed rest →
    Shape.decode steps depth .any (ofChars v.write ++ rest) = .ok (v, rest)

variable {levels needs steps depth : Nat} {bs rest : Bytes} {v : Json}

theorem skipBlanks_cons {b : UInt8} (h : isBlank b = false) (bs : Bytes) : skipBlanks (b :: bs) = b :: bs :=
  List.dropWhile_cons_of_neg (by rw [h]; exact Bool.false_ne_true)

/-! ## Strings -/

theorem readsBack_string (s : String) : ReadsBack levels 1 (.string s) where
  begins := by
    have hwrite := ofChars_writeString s []
    rw [List.append_nil] at hwrite
    exact ⟨_, _, hwrite, by decide, by decide⟩
  reads := by
    intro steps depth rest hsteps _ _
    obtain ⟨steps, rfl⟩ := Nat.exists_eq_add_of_le' hsteps
    rw [write, ofChars_writeString, Shape.decode.eq_def]
    show (readString _ >>= _) = _
    rw [readString_written]
    rfl

/-! ## Numbers -/

/-- A value that begins with a digit is a number. -/
theorem decode_of_isDigit {b : UInt8} (hb : isDigit b = true) (steps depth : Nat) (bs : Bytes) :
    Shape.decode (steps + 1) depth .any (b :: bs) =
      readNumeral true (b :: bs) >>= fun (n, rest) => .ok (n.toJson, rest) := by
  have hne : ∀ x : UInt8, isDigit x = false → b ≠ x := by
    rintro x hx rfl
    rw [hb] at hx
    cases hx
  rw [Shape.decode.eq_def]
  dsimp only
  rw [skipBlanks_cons (isBlank_of_isDigit hb)]
  -- whatever else a value begins with is no digit
  split
  all_goals first
    | contradiction
    | exact absurd (List.cons.inj ‹b :: bs = _›).1 (hne _ (by decide))
    | skip
  rename_i h
  obtain ⟨rfl, rfl⟩ := List.cons.inj h
  rw [if_pos hb]

/-- **A whole number that fits into a word is read back.** -/
theorem readsBack_nat {n : Nat} (hn : n ≤ Number.maxWord) : ReadsBack levels 1 (.nat n) := by
  have hwrite : write (.nat n) = Nat.toDigits 10 n := by
    show (Number.intText (n : Int)).toList = _
    rw [Number.intText, if_neg (by omega), Int.natAbs_natCast, Number.natText, String.toList_ofList]
  obtain ⟨c, cs, hdigits⟩ := List.exists_cons_of_ne_nil (Nat.toDigits_ne_nil (n := n) (b := 10))
  have hall : ∀ c' ∈ c :: cs, c'.isDigit = true := fun c' hc' =>
    Nat.isDigit_of_mem_toDigits (by decide) (by decide) (hdigits ▸ hc')
  have hbytes : ofChars (write (.nat n)) = UInt8.ofNat c.toNat :: cs.map fun c => UInt8.ofNat c.toNat := by
    rw [hwrite, hdigits, ofChars_digits hall]
    rfl
  have hfirst := isDigit_digitByte (hall c List.mem_cons_self)
  constructor
  case begins =>
    refine ⟨_, _, hbytes, isBlank_of_isDigit hfirst, fun h => ?_⟩
    rw [h] at hfirst
    cases hfirst
  case reads =>
    intro steps depth rest hsteps _ hrest
    obtain ⟨steps, rfl⟩ := Nat.exists_eq_add_of_le' hsteps
    have hread := readNumeral_written hn hrest
    rw [← hwrite, hbytes] at hread
    rw [hbytes, List.cons_append, decode_of_isDigit hfirst, ← List.cons_append, hread]
    rfl

/-! ## Arrays -/

/-- What is written before an item or member, by whether it is the first. -/
def separator (first : Bool) : List Char := if first then [] else [',']

/-- The items of an array up to its end, each with what is written before it. -/
def writeItemsFrom (first : Bool) : List Json → List Char
  | [] => [']']
  | item :: items => separator first ++ (write item ++ writeItemsFrom false items)

theorem writeItems_eq (items : List Json) : writeItems items = writeItemsFrom true items := by
  cases items with
  | nil => rw [writeItems, writeItemsFrom]
  | cons item items =>
    induction items generalizing item with
    | nil => rw [writeItems, writeItemsFrom, writeItemsFrom]; rfl
    | cons next items ih => rw [writeItems, ih, writeItemsFrom, writeItemsFrom, writeItemsFrom]; rfl

/-- Before the next item there is a comma, and after the last one the end of the array. -/
theorem closed_writeItemsFrom (items : List Json) (rest : Bytes) :
    Closed (ofChars (writeItemsFrom false items) ++ rest) := by
  cases items with
  | nil => exact fun b hb => Or.inr (Or.inl (Option.some.inj hb).symm)
  | cons item items => exact fun b hb => Or.inl (Option.some.inj hb).symm

/-- An item that begins like a value is there. -/
theorem nextItem?_separator {b : UInt8} (hblank : isBlank b = false) (hend : b ≠ 0x5D) (first : Bool) (bs : Bytes) :
    nextItem? first (ofChars (separator first) ++ b :: bs) = .ok (true, b :: bs) := by
  have hvalue : skipBlanks (b :: bs) = b :: bs := skipBlanks_cons hblank bs
  cases first with
  | true =>
    show nextItem? true (b :: bs) = _
    rw [nextItem?, hvalue]
    split
    · contradiction
    · rename_i h
      exact absurd (List.cons.inj h).1 hend
    · rename_i h
      rw [if_pos rfl, h]
  | false =>
    show nextItem? false (0x2C :: b :: bs) = _
    have hcomma : skipBlanks (0x2C :: b :: bs) = 0x2C :: b :: bs := skipBlanks_cons (by decide) _
    rw [nextItem?, hcomma]
    split
    · contradiction
    · rename_i h
      exact absurd (List.cons.inj h).1 (by decide)
    rename_i h
    obtain ⟨rfl, rfl⟩ := List.cons.inj h
    rw [if_neg Bool.false_ne_true, if_pos rfl, hvalue]
    split
    · contradiction
    · rename_i h
      exact absurd (List.cons.inj h).1 hend
    · rfl

theorem decodeItems_of_end {item : Shape} {first : Bool} (hend : nextItem? first bs = .ok (false, rest)) :
    Shape.decodeItems (steps + 1) depth item first bs = .ok ([], rest) := by
  rw [Shape.decodeItems, hend]
  rfl

theorem decodeItems_of_next {item : Shape} {first : Bool} {vs : List Json} {bs₁ bs₂ : Bytes}
    (hnext : nextItem? first bs = .ok (true, bs₁)) (hv : Shape.decode steps depth item bs₁ = .ok (v, bs₂))
    (hvs : Shape.decodeItems steps depth item false bs₂ = .ok (vs, rest)) :
    Shape.decodeItems (steps + 1) depth item first bs = .ok (v :: vs, rest) := by
  rw [Shape.decodeItems, hnext]
  show (Shape.decode steps depth item bs₁ >>= _) = _
  rw [hv]
  show (Shape.decodeItems steps depth item false bs₂ >>= _) = _
  rw [hvs]
  rfl

/-- The items of an array are read one after another up to its end, by induction on them. -/
theorem decodeItems_written {items : List Json} (hitems : ∀ item ∈ items, ReadsBack levels needs item)
    (hsteps : needs + items.length < steps) (hdepth : levels ≤ depth) (first : Bool) (rest : Bytes) :
    Shape.decodeItems steps depth .any first (ofChars (writeItemsFrom first items) ++ rest)
      = .ok (items, 0x5D :: rest) := by
  obtain ⟨steps, rfl⟩ : ∃ n, steps = n + 1 := ⟨steps - 1, by omega⟩
  induction items generalizing steps first with
  | nil => exact decodeItems_of_end (by cases first <;> rfl)
  | cons item items ih =>
    obtain ⟨hitem, hitems⟩ := List.forall_mem_cons.mp hitems
    obtain ⟨b, bs, hbytes, hblank, hend⟩ := hitem.begins
    rw [List.length_cons] at hsteps
    obtain ⟨steps, rfl⟩ : ∃ n, steps = n + 1 := ⟨steps - 1, by omega⟩
    have hread := hitem.reads (steps + 1) depth (ofChars (writeItemsFrom false items) ++ rest) (by omega) hdepth
      (closed_writeItemsFrom items rest)
    have hmore := ih hitems false steps (by omega)
    rw [writeItemsFrom, ofChars_append, ofChars_append, List.append_assoc, List.append_assoc]
    rw [hbytes] at hread ⊢
    exact decodeItems_of_next (nextItem?_separator hblank hend first _) hread hmore

theorem decode_of_items {items : List Json} (hdepth : 1 < depth)
    (hitems : Shape.decodeItems steps (depth - 1) .any true bs = .ok (items, 0x5D :: rest)) :
    Shape.decode (steps + 1) depth .any (0x5B :: bs) = .ok (.array items, rest) := by
  have hshallow : ¬ depth ≤ 1 := Nat.not_le.mpr hdepth
  rw [Shape.decode.eq_def]
  show (if depth ≤ 1 then _ else Shape.decodeItems steps (depth - 1) .any true bs >>= _) = _
  rw [if_neg hshallow, hitems]
  rfl

/-- **An array is read back if its items are.** -/
theorem readsBack_array {items : List Json} (hitems : ∀ item ∈ items, ReadsBack (levels + 1) needs item) :
    ReadsBack (levels + 2) (needs + items.length + 2) (.array items) where
  begins := ⟨0x5B, ofChars (writeItems items), rfl, by decide, by decide⟩
  reads := by
    intro steps depth rest hsteps hdepth _
    obtain ⟨steps, rfl⟩ : ∃ n, steps = n + 1 := ⟨steps - 1, by omega⟩
    rw [write, ofChars_cons, writeItems_eq]
    exact decode_of_items (by omega) (decodeItems_written hitems (by omega) (by omega) true rest)

/-! ## Objects -/

/-- The members of an object up to its end, each with what is written before it. -/
def writeMembersFrom (first : Bool) : List (String × Json) → List Char
  | [] => ['\x7d']
  | (name, value) :: members =>
    separator first ++ (writeString name ++ ':' :: (write value ++ writeMembersFrom false members))

theorem writeMembers_eq (members : List (String × Json)) : writeMembers members = writeMembersFrom true members := by
  cases members with
  | nil => rw [writeMembers, writeMembersFrom]
  | cons member members =>
    induction members generalizing member with
    | nil =>
      rw [writeMembers, writeMembersFrom, writeMembersFrom, List.append_assoc]
      rfl
    | cons next members ih =>
      rw [writeMembers, ih, writeMembersFrom, writeMembersFrom, writeMembersFrom, List.append_assoc]
      rfl

/-- Before the next member there is a comma, and after the last one the end of the object. -/
theorem closed_writeMembersFrom (members : List (String × Json)) (rest : Bytes) :
    Closed (ofChars (writeMembersFrom false members) ++ rest) := by
  cases members with
  | nil => exact fun b hb => Or.inr (Or.inr (Option.some.inj hb).symm)
  | cons member members => exact fun b hb => Or.inl (Option.some.inj hb).symm

/-- A member is there where a name begins. -/
theorem nextMember?_separator (first : Bool) (bs : Bytes) :
    nextMember? first (ofChars (separator first) ++ 0x22 :: bs) = .ok (true, bs) := by
  cases first <;> rfl

theorem decodeMembers_of_end {first : Bool} (hend : nextMember? first bs = .ok (false, rest)) :
    Shape.decodeMembers (steps + 1) depth first bs = .ok ([], rest) := by
  rw [Shape.decodeMembers, hend]
  rfl

theorem decodeMembers_of_next {first : Bool} {name : String} {ms : List (String × Json)} {bs₁ bs₂ bs₃ : Bytes}
    (hnext : nextMember? first bs = .ok (true, bs₁)) (hname : readString bs₁ = .ok (name, 0x3A :: bs₂))
    (hv : Shape.decode steps depth .any bs₂ = .ok (v, bs₃))
    (hms : Shape.decodeMembers steps depth false bs₃ = .ok (ms, rest)) :
    Shape.decodeMembers (steps + 1) depth first bs = .ok ((name, v) :: ms, rest) := by
  rw [Shape.decodeMembers, hnext]
  show (readString bs₁ >>= _) = _
  rw [hname]
  show (Shape.decode steps depth .any bs₂ >>= _) = _
  rw [hv]
  show (Shape.decodeMembers steps depth false bs₃ >>= _) = _
  rw [hms]
  rfl

/-- The members of an object are read one after another up to its end, by induction on them. -/
theorem decodeMembers_written {members : List (String × Json)}
    (hmembers : ∀ m ∈ members, ReadsBack levels needs m.2) (hsteps : needs + members.length < steps)
    (hdepth : levels ≤ depth) (first : Bool) (rest : Bytes) :
    Shape.decodeMembers steps depth first (ofChars (writeMembersFrom first members) ++ rest)
      = .ok (members, 0x7D :: rest) := by
  obtain ⟨steps, rfl⟩ : ∃ n, steps = n + 1 := ⟨steps - 1, by omega⟩
  induction members generalizing steps first with
  | nil => exact decodeMembers_of_end (by cases first <;> rfl)
  | cons member members ih =>
    obtain ⟨name, value⟩ := member
    obtain ⟨hvalue, hmembers⟩ := List.forall_mem_cons.mp hmembers
    rw [List.length_cons] at hsteps
    obtain ⟨steps, rfl⟩ : ∃ n, steps = n + 1 := ⟨steps - 1, by omega⟩
    have hread := hvalue.reads (steps + 1) depth (ofChars (writeMembersFrom false members) ++ rest) (by omega)
      hdepth (closed_writeMembersFrom members rest)
    have hmore := ih hmembers false steps (by omega)
    rw [writeMembersFrom, ofChars_append, ofChars_append, List.append_assoc, List.append_assoc, ofChars_writeString,
      ofChars_cons, ofChars_append, List.append_assoc, List.append_assoc]
    exact decodeMembers_of_next (nextMember?_separator first _) (readString_written name _) hread hmore

/-- A name after all others goes to the end. -/
theorem insertSorted_of_forall_lt {name : String} {members : List (String × Json)}
    (h : ∀ m ∈ members, m.1 < name) (value : Json) :
    insertSorted name value members = members ++ [(name, value)] := by
  induction members with
  | nil => rfl
  | cons member members ih =>
    obtain ⟨hlt, h⟩ := List.forall_mem_cons.mp h
    have hne : name ≠ member.1 := fun heq => String.lt_irrefl _ (heq ▸ hlt)
    have hnot : ¬ name < member.1 := String.lt_asymm hlt
    rw [insertSorted, if_neg hne, if_neg hnot, ih h]
    rfl

/-- Members in the order of their names stay as they are. -/
theorem sortedObject_of_pairwise {members : List (String × Json)} (h : members.Pairwise (·.1 < ·.1)) :
    sortedObject members = .object members := by
  have hfold : ∀ done left : List (String × Json), (done ++ left).Pairwise (·.1 < ·.1) →
      left.foldl (fun acc m => insertSorted m.1 m.2 acc) done = done ++ left := by
    intro done left hsorted
    induction left generalizing done with
    | nil => exact (List.append_nil done).symm
    | cons member left ih =>
      have hlt : ∀ m ∈ done, m.1 < member.1 := fun m hm =>
        (List.pairwise_append.mp hsorted).2.2 m hm member List.mem_cons_self
      rw [List.append_cons] at hsorted ⊢
      rw [List.foldl_cons, insertSorted_of_forall_lt hlt]
      exact ih _ hsorted
  rw [sortedObject, hfold [] members h]
  rfl

theorem decode_of_members {members : List (String × Json)} (hdepth : 1 < depth)
    (hmembers : Shape.decodeMembers steps (depth - 1) true bs = .ok (members, 0x7D :: rest)) :
    Shape.decode (steps + 1) depth .any (0x7B :: bs) = .ok (sortedObject members, rest) := by
  have hshallow : ¬ depth ≤ 1 := Nat.not_le.mpr hdepth
  rw [Shape.decode.eq_def]
  show (if depth ≤ 1 then _ else Shape.decodeMembers steps (depth - 1) true bs >>= _) = _
  rw [if_neg hshallow, hmembers]
  rfl

/-- **An object is read back if its values are**, and its members are in the order of their names. -/
theorem readsBack_object {members : List (String × Json)} (hsorted : members.Pairwise (·.1 < ·.1))
    (hmembers : ∀ m ∈ members, ReadsBack (levels + 1) needs m.2) :
    ReadsBack (levels + 2) (needs + members.length + 2) (.object members) where
  begins := ⟨0x7B, ofChars (writeMembers members), rfl, by decide, by decide⟩
  reads := by
    intro steps depth rest hsteps hdepth _
    obtain ⟨steps, rfl⟩ : ∃ n, steps = n + 1 := ⟨steps - 1, by omega⟩
    rw [write, ofChars_cons, writeMembers_eq, ← sortedObject_of_pairwise hsorted]
    exact decode_of_members (by omega) (decodeMembers_written hmembers (by omega) (by omega) true rest)

/-! ## Whole texts -/

/-- **The whole text of a value is read back** within the bounds of the reader. -/
theorem ReadsBack.parse (h : ReadsBack levels needs v) (hlevels : levels ≤ depthLimit)
    (hneeds : needs ≤ 2 * v.toBytes.length + 8) : parse v.toBytes = .ok v := by
  have hread := h.reads _ depthLimit [] hneeds hlevels closed_nil
  rw [List.append_nil] at hread
  have hwhole : Shape.any.read v.toBytes = .ok v := by
    rw [Shape.read, toBytes]
    rw [toBytes] at hread
    rw [hread]
    rfl
  rw [Json.parse, hwhole]

/-- The items after the first have a byte before each of them, and one after the last. -/
theorem length_lt_writeItemsFrom (items : List Json) :
    items.length < (ofChars (writeItemsFrom false items)).length := by
  induction items with
  | nil => exact Nat.one_pos
  | cons item items ih =>
    have hcomma : (ofChars (separator false)).length = 1 := rfl
    rw [writeItemsFrom, ofChars_append, ofChars_append, List.length_append, List.length_append,
      List.length_cons, hcomma]
    omega

/-- **The whole text of an array is read back** if its items are, however many there are. -/
theorem parse_array {items : List Json} (hitems : ∀ item ∈ items, ReadsBack (levels + 1) needs item)
    (hlevels : levels + 2 ≤ depthLimit) (hneeds : needs ≤ 6) :
    parse (Json.array items).toBytes = .ok (.array items) := by
  refine (readsBack_array hitems).parse hlevels ?_
  have hlength : items.length ≤ (Json.array items).toBytes.length := by
    rw [toBytes, write, writeItems_eq, ofChars_cons, List.length_append]
    cases items with
    | nil => exact Nat.zero_le _
    | cons item items =>
      have hmore := length_lt_writeItemsFrom items
      rw [writeItemsFrom, ofChars_append, ofChars_append, List.length_append, List.length_append,
        List.length_cons]
      omega
  omega

end Switchyard.Json
