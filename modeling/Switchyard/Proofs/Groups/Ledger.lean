import Mathlib.Algebra.Group.Nat.Defs
import Mathlib.Data.List.Basic
import Switchyard.Groups.Store

/-!
  The groups as an abstract store.

  A ledger is a finite map from numbers to names and a counter of what was ever created; whatever is in the
  map was created, and a ledger cannot be made otherwise (`Ledger.range`).

  1. **The ledger itself.**  Its listing has exactly the groups that are there, in strictly increasing order
     (`Ledger.mem_listing`, `Ledger.increasing_listing`).

  2. **Its future.**  One ledger may come after another if new numbers were given out and old groups have gone for
     good (`Ledger.Precedes`).  This is a preorder that creating and removing keep, so that a group that is gone
     never comes back (`Precedes.gone`).

  3. **The groups of the application.**  They represent a ledger (`Represents`), and what is done to them is done to
     it, one operation after the other: `Represents.create`, `Represents.name?_eq`, `Represents.contains_eq`,
     `Represents.erase`.
-/

namespace Switchyard.Groups

/-- How many groups were created, and the names of those that are there. -/
structure Ledger where
  created : Nat := 0
  name? : Nat → Option String := fun _ => none
  /-- A group that is there has one of the numbers given out. -/
  range {id : Nat} {name : String} : name? id = some name → 1 ≤ id ∧ id ≤ created := by exact nofun

namespace Ledger

/-- The next group is created. -/
def add (l : Ledger) (name : String) : Ledger where
  created := l.created + 1
  name? id := if id = l.created + 1 then some name else l.name? id
  range {id other} h := by
    split at h
    · omega
    · obtain ⟨hlow, hhigh⟩ := l.range h
      exact ⟨hlow, Nat.le_succ_of_le hhigh⟩

/-- A group goes. -/
def remove (l : Ledger) (gone : Nat) : Ledger where
  created := l.created
  name? id := if id = gone then none else l.name? id
  range {id name} h := by
    split at h
    · cases h
    · exact l.range h

/-- The groups that are there, in the order of their numbers. -/
def listing (l : Ledger) : List (Nat × String) :=
  (List.range' 1 l.created).filterMap fun id => (l.name? id).map fun name => (id, name)

variable {l l' l'' : Ledger} {id : Nat} {name : String}

@[simp] theorem name?_add : (l.add name).name? id = if id = l.created + 1 then some name else l.name? id := rfl

@[simp] theorem name?_remove {gone : Nat} :
    (l.remove gone).name? id = if id = gone then none else l.name? id := rfl

/-- Without a group of this number nothing goes. -/
theorem remove_eq_self (h : l.name? id = none) : l.remove id = l := by
  have hname : (l.remove id).name? = l.name? := by
    funext other
    rw [name?_remove]
    split
    · rename_i hother
      rw [hother, h]
    · rfl
  obtain ⟨created, names, range⟩ := l
  simp only [remove] at hname ⊢
  simp only [hname]

/-- **Exactly the groups that are there are listed.** -/
theorem mem_listing : (id, name) ∈ l.listing ↔ l.name? id = some name := by
  rw [listing, List.mem_filterMap]
  constructor
  · rintro ⟨id', -, h⟩
    obtain ⟨name', hname, heq⟩ := Option.map_eq_some_iff.mp h
    obtain ⟨rfl, rfl⟩ := Prod.mk.inj heq
    exact hname
  · intro h
    obtain ⟨hlow, hhigh⟩ := l.range h
    refine ⟨id, List.mem_range'_1.mpr ⟨hlow, by omega⟩, ?_⟩
    rw [h]
    rfl

/-- **They are listed in strictly increasing order.** -/
theorem increasing_listing (l : Ledger) : (l.listing.map Prod.fst).Pairwise (· < ·) := by
  rw [listing, List.pairwise_map, List.pairwise_filterMap]
  refine (List.pairwise_lt_range').imp fun {a b} hab x hx y hy => ?_
  obtain ⟨name, -, rfl⟩ := Option.map_eq_some_iff.mp hx
  obtain ⟨name', -, rfl⟩ := Option.map_eq_some_iff.mp hy
  exact hab

/-- The name of a group is found in the listing. -/
theorem find?_listing (l : Ledger) (id : Nat) : (l.listing.find? (·.1 = id)).map (·.2) = l.name? id := by
  cases hfind : l.listing.find? (·.1 = id) with
  | none =>
    have hnot := List.find?_eq_none.mp hfind
    cases hname : l.name? id with
    | none => rfl
    | some name => exact absurd (decide_eq_true rfl) (hnot (id, name) (mem_listing.mpr hname))
  | some g =>
    have hg := List.find?_some hfind
    obtain rfl : g.1 = id := of_decide_eq_true hg
    exact (mem_listing.mp (List.mem_of_find?_eq_some hfind)).symm

/-- A new group is listed last. -/
theorem listing_add (l : Ledger) (name : String) :
    (l.add name).listing = l.listing ++ [(l.created + 1, name)] := by
  have hold : (List.range' 1 l.created).filterMap
      (fun id => ((l.add name).name? id).map fun name => (id, name)) = l.listing := by
    refine List.filterMap_congr fun id hid => ?_
    have hle := (List.mem_range'_1.mp hid).2
    rw [name?_add, if_neg (by omega)]
  have hnew : (l.add name).name? (1 + 1 * l.created) = some name :=
    if_pos (by omega)
  show (List.range' 1 (l.created + 1)).filterMap _ = _
  rw [List.range'_concat, List.filterMap_append, hold, List.filterMap_cons_some, List.filterMap_nil]
  rw [hnew, Option.map_some, Nat.one_mul, Nat.add_comm]

/-- A group that goes leaves the others in their order. -/
theorem listing_remove (l : Ledger) (gone : Nat) :
    (l.remove gone).listing = l.listing.filter (·.1 ≠ gone) := by
  rw [listing, listing, List.filter_filterMap]
  refine List.filterMap_congr fun id _ => ?_
  cases hname : l.name? id with
  | none => simp [hname]
  | some name =>
    by_cases hid : id = gone
    · simp [hid, Option.filter_some]
    · simp [hid, hname, Option.filter_some]

/-! ## The future of a ledger -/

/-- The second ledger may come after the first: more groups were created, and of those from before each
    is there as it was or is gone, and none that was gone is back. -/
structure Precedes (l l' : Ledger) : Prop where
  created : l.created ≤ l'.created
  old {id : Nat} : id ≤ l.created → l'.name? id = l.name? id ∨ l'.name? id = none

theorem Precedes.refl (l : Ledger) : l.Precedes l := ⟨Nat.le_refl _, fun _ => Or.inl rfl⟩

theorem Precedes.trans (h : l.Precedes l') (h' : l'.Precedes l'') : l.Precedes l'' where
  created := Nat.le_trans h.created h'.created
  old hid := by
    rcases h'.old (Nat.le_trans hid h.created) with hsame | hgone
    · rw [hsame]
      exact h.old hid
    · exact Or.inr hgone

/-- Creating a group leaves those from before as they are. -/
theorem precedes_add (l : Ledger) (name : String) : l.Precedes (l.add name) :=
  ⟨Nat.le_succ _, fun hid => Or.inl (if_neg (by omega))⟩

/-- Removing a group takes that one away and brings none back. -/
theorem precedes_remove (l : Ledger) (gone : Nat) : l.Precedes (l.remove gone) where
  created := Nat.le_refl _
  old {id} _ := by
    by_cases hid : id = gone
    · exact Or.inr (if_pos hid)
    · exact Or.inl (if_neg hid)

/-- **A group that is gone never comes back.** -/
theorem Precedes.gone (h : l.Precedes l') (hid : id ≤ l.created) (hgone : l.name? id = none) :
    l'.name? id = none := by
  rcases h.old hid with hsame | hnone
  · exact hsame.trans hgone
  · exact hnone

end Ledger

/-! ## The groups of the application -/

/-- The groups represent a ledger: they are those that it lists, and the last number given out is that of
    the last group created. -/
structure Represents (gs : Groups) (l : Ledger) : Prop where
  lastId : gs.lastId.toNat = l.created
  live : gs.live.map (fun g => (g.1.toNat, g.2)) = l.listing

/-- In the beginning there are no groups, and none was created. -/
theorem represents_empty : Represents {} {} := ⟨rfl, rfl⟩

/-- A group with a number beyond those that there are is placed at the end. -/
theorem place_of_lt {id : GroupId} {name : String} {live : List (GroupId × String)}
    (h : ∀ g ∈ live, g.1 < id) : place id name live = live ++ [(id, name)] := by
  induction live with
  | nil => rfl
  | cons g live ih =>
    obtain ⟨hg, hrest⟩ := List.forall_mem_cons.mp h
    rw [place, if_neg (UInt64.ne_of_lt hg).symm, if_neg (UInt64.lt_asymm hg), ih hrest]
    rfl

namespace Represents

variable {gs : Groups} {l : Ledger}

/-- A group that is there is in the ledger. -/
theorem mem_live (h : Represents gs l) {g : GroupId × String} (hg : g ∈ gs.live) :
    l.name? g.1.toNat = some g.2 := by
  refine Ledger.mem_listing.mp ?_
  rw [← h.live]
  exact List.mem_map_of_mem hg

/-- **A new group has the next number.** -/
theorem create (h : Represents gs l) (hfew : l.created + 1 < 2 ^ 64) (name : String) :
    (gs.create name).1.toNat = l.created + 1 ∧ Represents (gs.create name).2 (l.add name) := by
  have hid : (gs.lastId + 1).toNat = l.created + 1 := by
    rw [UInt64.toNat_add, h.lastId]
    exact Nat.mod_eq_of_lt hfew
  have hlast : ∀ g ∈ gs.live, g.1 < gs.lastId + 1 := fun g hg => by
    rw [UInt64.lt_iff_toNat_lt, hid]
    exact Nat.lt_succ_of_le (l.range (h.mem_live hg)).2
  refine ⟨hid, hid, ?_⟩
  show (place (gs.lastId + 1) name gs.live).map _ = _
  rw [place_of_lt hlast, List.map_append, h.live, Ledger.listing_add, List.map_singleton, hid]

/-- **Looking up a group** finds the name that the ledger has for its number. -/
theorem name?_eq (h : Represents gs l) (id : GroupId) : gs.name? id = l.name? id.toNat := by
  rw [← Ledger.find?_listing, ← h.live, List.find?_map, Option.map_map, Groups.name?]
  have hsame : ((fun g : Nat × String => decide (g.1 = id.toNat)) ∘ fun g : GroupId × String =>
      (g.1.toNat, g.2)) = fun g => decide (g.1 = id) :=
    funext fun g => decide_eq_decide.mpr UInt64.toNat_inj
  rw [hsame]
  rfl

/-- And there is a group of a number if the ledger has a name for it. -/
theorem contains_eq (h : Represents gs l) (id : GroupId) : gs.contains id = (l.name? id.toNat).isSome := by
  rw [← h.name?_eq, Groups.name?, Option.isSome_map, List.isSome_find?, Groups.contains]

/-- **Removing a group** removes it from the ledger, whether or not it was there. -/
theorem erase (h : Represents gs l) (id : GroupId) : Represents (gs.erase id) (l.remove id.toNat) where
  lastId := h.lastId
  live := by
    rw [Ledger.listing_remove, ← h.live, List.filter_map]
    refine congrArg (List.map _) (List.filter_congr fun g _ => ?_)
    exact decide_eq_decide.mpr (not_congr UInt64.toNat_inj.symm)

end Represents
end Switchyard.Groups
