import Switchyard.Groups.Routes
import Switchyard.Proofs.Results

/-!
  What a group is created from.

  A body is read as a record whose only field is a string.  Reading comes to an object with this field and
  nothing else (`object_of_decode`), however the record was written, so the name of the new group is always
  there:

  * `readName_eq_ok_iff`, `readName_eq_error_iff` — what a body is read as.
-/

namespace Switchyard

namespace Json

variable {depth : Nat} {bs rest : Bytes} {field : String} {v : Json}

theorem failAt_ne_ok {α : Type} {cause : Cause} {x : α} : failAt cause bs ≠ .ok x := by
  rw [failAt]
  exact nofun

theorem failOn_ne_ok {α : Type} {cause : Cause} {x : α} : failOn cause bs ≠ .ok x := by
  rw [failOn]
  exact nofun

/-- A value of the wrong kind is never read. -/
theorem mismatch_ne_ok {α : Type} {expected : String} {x : α} : mismatch expected bs ≠ .ok x := by
  intro h
  -- a scalar is read, and then it fails; everything else fails at once
  have hafter : ∀ {β : Type} {read : Except Fault β} {f : β → Except Fault α}, (∀ b, f b ≠ .ok x) →
      read >>= f ≠ .ok x := by
    intro β read f hf h
    obtain ⟨b, -, h⟩ := Except.ok_of_bind h
    exact hf b h
  rw [mismatch.eq_def] at h
  split at h
  · exact hafter (fun _ => failAt_ne_ok) h
  · exact hafter (fun _ => failAt_ne_ok) h
  · exact hafter (fun _ => failAt_ne_ok) h
  · exact hafter (fun _ => failAt_ne_ok) h
  · exact hafter (fun _ => failAt_ne_ok) h
  · exact failAt_ne_ok h
  · exact failAt_ne_ok h
  · split at h
    · exact hafter (fun _ => failAt_ne_ok) h
    · exact failOn_ne_ok h
  · exact failOn_ne_ok h

namespace Shape

/-- What is read as a string is one. -/
theorem string_of_decode {steps : Nat} (h : decode steps depth .string bs = .ok (v, rest)) :
    ∃ s, v = .string s := by
  cases steps with
  | zero =>
    rw [decode] at h
    exact absurd h failOn_ne_ok
  | succ steps =>
    rw [decode.eq_def] at h
    dsimp only at h
    split at h
    all_goals first
      | contradiction
      | exact absurd h failOn_ne_ok
      | exact absurd h mismatch_ne_ok
      | skip
    obtain ⟨⟨s, rest'⟩, -, h⟩ := Except.ok_of_bind h
    obtain ⟨rfl, -⟩ := Prod.mk.inj (Except.ok.inj h)
    exact ⟨s, rfl⟩

theorem eq_nil_of_decodeInOrder {steps index count : Nat} {name : String} {first : Bool}
    {verdict : Except Cause (List (String × Json))}
    (h : decodeInOrder steps depth name count first index [] bs = .ok (verdict, rest)) : verdict = .ok [] := by
  cases steps with
  | zero =>
    rw [decodeInOrder] at h
    exact absurd h failOn_ne_ok
  | succ steps =>
    rw [decodeInOrder] at h
    exact (Prod.mk.inj (Except.ok.inj h)).1.symm

/-- The items of an array in the place of a record with one field are one string. -/
theorem member_of_decodeInOrder {steps index count : Nat} {name : String} {first : Bool}
    {members : List (String × Json)}
    (h : decodeInOrder steps depth name count first index [(field, .string, none)] bs
      = .ok (.ok members, rest)) : ∃ s, members = [(field, .string s)] := by
  cases steps with
  | zero =>
    rw [decodeInOrder] at h
    exact absurd h failOn_ne_ok
  | succ steps =>
    rw [decodeInOrder] at h
    obtain ⟨⟨more, rest₁⟩, -, h⟩ := Except.ok_of_bind h
    cases more with
    | false => cases (Prod.mk.inj (Except.ok.inj h)).1
    | true =>
      obtain ⟨⟨v, rest₂⟩, hv, h⟩ := Except.ok_of_bind h
      obtain ⟨s, rfl⟩ := string_of_decode hv
      obtain ⟨⟨others, rest₃⟩, hothers, h⟩ := Except.ok_of_bind h
      obtain rfl := eq_nil_of_decodeInOrder hothers
      exact ⟨s, (Except.ok.inj (Prod.mk.inj (Except.ok.inj h)).1).symm⟩

/-- The members of an object in the place of a record with one field come to one string; this is by
    induction on the members, and what was found so far are strings. -/
theorem member_of_decodeFields {steps : Nat} {first : Bool} {found members : List (String × Json)}
    (hfound : ∀ m ∈ found, ∃ s, m.2 = .string s)
    (h : decodeFields steps depth [(field, .string, none)] first found bs = .ok (.ok members, rest)) :
    ∃ s, members = [(field, .string s)] := by
  induction steps generalizing bs first found with
  | zero =>
    rw [decodeFields] at h
    exact absurd h failOn_ne_ok
  | succ steps ih =>
    rw [decodeFields] at h
    obtain ⟨⟨more, rest₁⟩, -, h⟩ := Except.ok_of_bind h
    cases more with
    | false =>
      have hcomplete : completeFields found [(field, .string, none)] = .ok members :=
        (Prod.mk.inj (Except.ok.inj h)).1
      rw [completeFields.eq_def] at hcomplete
      dsimp only at hcomplete
      split at hcomplete
      · rename_i v default? shape hv
        obtain ⟨m, hm, rfl⟩ := Option.map_eq_some_iff.mp hv
        obtain ⟨s, hs⟩ := hfound m (List.mem_of_find?_eq_some hm)
        exact ⟨s, hs ▸ (Except.ok.inj hcomplete).symm⟩
      · contradiction
      · contradiction
      · cases hcomplete
    | true =>
      obtain ⟨⟨name, rest₂⟩, -, h⟩ := Except.ok_of_bind h
      dsimp only at h
      split at h
      · obtain ⟨⟨_, rest₃⟩, -, h⟩ := Except.ok_of_bind h
        obtain ⟨⟨_, rest₄⟩, -, h⟩ := Except.ok_of_bind h
        exact ih hfound h
      · rename_i shape default? hfield
        have hmem := List.mem_singleton.mp (List.mem_of_find?_eq_some hfield)
        obtain ⟨rfl, -⟩ := Prod.mk.inj (Prod.mk.inj hmem).2
        split at h
        · cases (Prod.mk.inj (Except.ok.inj h)).1
        · obtain ⟨⟨_, rest₃⟩, -, h⟩ := Except.ok_of_bind h
          obtain ⟨⟨v, rest₄⟩, hv, h⟩ := Except.ok_of_bind h
          refine ih ?_ h
          exact List.forall_mem_append.mpr ⟨hfound, List.forall_mem_singleton.mpr (string_of_decode hv)⟩

/-- What an object is settled with are the members that were found. -/
theorem object_of_settle {close : Reader Unit} {after : Bytes → Bytes}
    {verdict : Except Cause (List (String × Json))}
    (h : settle close after (verdict.map .object) bs = .ok (v, rest)) :
    ∃ members, verdict = .ok members ∧ v = .object members := by
  cases verdict with
  | error cause => exact absurd h failAt_ne_ok
  | ok members =>
    refine ⟨members, rfl, ?_⟩
    cases hclose : close bs with
    | error f =>
      simp only [settle, Except.map, hclose] at h
      cases h
    | ok closed =>
      simp only [settle, Except.map, hclose] at h
      exact (Prod.mk.inj (Except.ok.inj h)).1.symm

/-- **What is read as a record with one field is an object with this field and nothing else.** -/
theorem object_of_decode {steps : Nat} {name : String}
    (h : decode steps depth (.record name [(field, .string, none)]) bs = .ok (v, rest)) :
    ∃ s, v = .object [(field, .string s)] := by
  cases steps with
  | zero =>
    rw [decode] at h
    exact absurd h failOn_ne_ok
  | succ steps =>
    rw [decode.eq_def] at h
    dsimp only at h
    split at h
    all_goals first
      | contradiction
      | exact absurd h failOn_ne_ok
      | exact absurd h mismatch_ne_ok
      | skip
    · rename_i hshape hstart
      obtain ⟨rfl, rfl⟩ := Shape.record.inj hshape
      split at h
      · exact absurd h failOn_ne_ok
      · obtain ⟨⟨verdict, rest'⟩, hitems, h⟩ := Except.ok_of_bind h
        obtain ⟨members, rfl, rfl⟩ := object_of_settle h
        obtain ⟨s, rfl⟩ := member_of_decodeInOrder hitems
        exact ⟨s, rfl⟩
    · rename_i hshape hstart
      obtain ⟨rfl, rfl⟩ := Shape.record.inj hshape
      split at h
      · exact absurd h failOn_ne_ok
      · obtain ⟨⟨verdict, rest'⟩, hmembers, h⟩ := Except.ok_of_bind h
        obtain ⟨members, rfl, rfl⟩ := object_of_settle h
        obtain ⟨s, rfl⟩ := member_of_decodeFields (List.forall_mem_nil _) hmembers
        exact ⟨s, rfl⟩

end Shape
end Json

namespace Groups

variable {body : Bytes}

theorem object_of_read {v : Json} (h : createShape.read body = .ok v) :
    ∃ name, v = .object [("name", .string name)] := by
  obtain ⟨⟨v', rest⟩, hdecode, h⟩ := Except.ok_of_bind h
  dsimp only at h
  split at h
  · obtain rfl := Except.ok.inj h
    exact Json.Shape.object_of_decode hdecode
  · exact absurd h Json.failOn_ne_ok

/-- **A name is read from a body that is read as an object with this name.** -/
theorem readName_eq_ok_iff {name : String} :
    readName body = .ok name ↔ createShape.read body = .ok (.object [("name", .string name)]) := by
  rw [readName]
  cases hread : createShape.read body with
  | error f => exact iff_of_false nofun nofun
  | ok v =>
    obtain ⟨name', rfl⟩ := object_of_read hread
    constructor
    · intro h
      obtain rfl : name' = name := Except.ok.inj h
      rfl
    · intro h
      obtain ⟨-, hstring⟩ := Prod.mk.inj (List.cons.inj (Json.object.inj (Except.ok.inj h))).1
      exact congrArg Except.ok (Json.string.inj hstring)

/-- A body is refused with what is wrong with it. -/
theorem readName_eq_error_iff {e : String} :
    readName body = .error e ↔ ∃ f, createShape.read body = .error f ∧ e = f.message body := by
  rw [readName]
  cases hread : createShape.read body with
  | error f =>
    constructor
    · intro h
      exact ⟨f, rfl, (Except.error.inj h).symm⟩
    · rintro ⟨f', hf, rfl⟩
      obtain rfl := Except.error.inj hf
      rfl
  | ok v =>
    obtain ⟨name, rfl⟩ := object_of_read hread
    exact iff_of_false nofun nofun

end Groups
end Switchyard
