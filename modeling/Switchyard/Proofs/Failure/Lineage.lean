import Mathlib.Data.List.Chain
import Mathlib.Data.List.Nodup
import Mathlib.Data.List.Perm.Subperm
import Mathlib.Logic.Relation
import Switchyard.Failure.Mapper

/-!
  What the lineage of a kind is.

  Kinds may say anything of what stands above them: there may be cycles, tails that lead into a cycle, and chains
  without end.  The walk up from a kind (`Hierarchy.Walk`) never meets a kind twice and is bounded in its length, and
  these two together say where it stops.

  * `walk_above`                — walking up takes every step that is left to take, by induction on the room;
  * `IsLineage`, `isLineage_iff` — what a lineage is, and that there is no other;
  * `mem_lineage_iff_reaches`   — if no more than 32 kinds can be reached, the lineage has them all;
  * `lineage_eq_cons`           — and it goes on as the lineage of the kind above;
  * `lineage_lists_those_above` — all this, with what it says about the mapper of a failure.
-/

namespace Switchyard

namespace Hierarchy

variable {h : Hierarchy} {k p : Kind} {ks : List Kind}

/-- The second kind stands directly above the first. -/
abbrev Up (h : Hierarchy) (k p : Kind) : Prop := h k = some p

/-- The second kind can be reached from the first, in any number of steps. -/
abbrev Reaches (h : Hierarchy) : Kind → Kind → Prop := Relation.ReflTransGen h.Up

/-- No more than 32 kinds can be reached. -/
def Shallow (h : Hierarchy) (k : Kind) : Prop :=
  ∀ ks : List Kind, ks.Nodup → (∀ x ∈ ks, h.Reaches k x) → ks.length ≤ 32

/-- A list of kinds is a lineage: it starts with the kind itself, each kind is followed by the one directly above
    it, none occurs twice, there are at most 32, and it stops only where there is nothing above, where the kind
    above is in the list already, or where there are 32. -/
structure IsLineage (h : Hierarchy) (k : Kind) (ks : List Kind) : Prop where
  starts : ks.head? = some k
  climbs : ks.IsChain h.Up
  nodup : ks.Nodup
  short : ks.length ≤ 32
  stops : ∀ x, ks.getLast? = some x → h x = none ∨ (∃ p ∈ ks, h x = some p) ∨ ks.length = 32

/-! ## Walking up -/

section Walking

variable {room : Nat} {seen : List Kind}

theorem above_of_root (room : Nat) (seen : List Kind) (hk : h k = none) : h.above room seen k = ([], false) := by
  rw [above, hk]

theorem above_of_seen (room : Nat) (hk : h k = some p) (hp : p ∈ seen) : h.above room seen k = ([], true) := by
  rw [above, hk]
  exact if_pos hp

theorem above_zero (hk : h k = some p) (hp : p ∉ seen) : h.above 0 seen k = ([], true) := by
  rw [above, hk]
  exact if_neg hp

theorem above_succ (room : Nat) (hk : h k = some p) (hp : p ∉ seen) :
    (h.above (room + 1) seen k).1 = p :: (h.above room (p :: seen) p).1 := by
  rw [above, hk]
  exact congrArg Prod.fst (if_neg hp)

/-- A walk up from a kind, with so many steps left and these kinds met before. -/
structure Walk (h : Hierarchy) (room : Nat) (seen : List Kind) (k : Kind) (ks : List Kind) : Prop where
  climbs : (k :: ks).IsChain h.Up
  fresh : ∀ x ∈ ks, x ∉ seen
  nodup : ks.Nodup
  short : ks.length ≤ room
  stops : ∀ x, (k :: ks).getLast? = some x →
    h x = none ∨ (∃ p, h x = some p ∧ (p ∈ seen ∨ p ∈ ks)) ∨ ks.length = room

/-- A walk that takes no step. -/
theorem Walk.nil (hstops : h k = none ∨ (∃ p, h k = some p ∧ p ∈ seen) ∨ room = 0) : h.Walk room seen k [] where
  climbs := .singleton k
  fresh := List.forall_mem_nil _
  nodup := List.nodup_nil
  short := Nat.zero_le room
  stops x hx := by
    obtain rfl : k = x := Option.some.inj hx
    rcases hstops with hnone | ⟨p, hp, hseen⟩ | hroom
    · exact Or.inl hnone
    · exact Or.inr (Or.inl ⟨p, hp, Or.inl hseen⟩)
    · exact Or.inr (Or.inr hroom.symm)

/-- A step onto a kind that was not met before, and the walk from there. -/
theorem Walk.cons (hk : h k = some p) (hp : p ∉ seen) (hwalk : h.Walk room (p :: seen) p ks) :
    h.Walk (room + 1) seen k (p :: ks) where
  climbs := hwalk.climbs.cons_cons hk
  fresh := by
    intro x hx
    rcases List.mem_cons.mp hx with rfl | hx
    · exact hp
    · exact fun hseen => hwalk.fresh x hx (List.mem_cons_of_mem p hseen)
  nodup := List.nodup_cons.mpr ⟨fun hpks => hwalk.fresh p hpks List.mem_cons_self, hwalk.nodup⟩
  short := Nat.succ_le_succ hwalk.short
  stops x hx := by
    rw [List.getLast?_cons_cons] at hx
    rcases hwalk.stops x hx with hnone | ⟨q, hq, hmet⟩ | hroom
    · exact Or.inl hnone
    · refine Or.inr (Or.inl ⟨q, hq, ?_⟩)
      rcases hmet with hseen | hks
      · rcases List.mem_cons.mp hseen with rfl | hseen
        · exact Or.inr List.mem_cons_self
        · exact Or.inl hseen
      · exact Or.inr (List.mem_cons_of_mem p hks)
    · exact Or.inr (Or.inr (congrArg (· + 1) hroom))

/-- **Walking up takes every step that is left to take.** -/
theorem walk_above (h : Hierarchy) (room : Nat) (seen : List Kind) (k : Kind) :
    h.Walk room seen k (h.above room seen k).1 := by
  induction room generalizing seen k with
  | zero =>
    have hnil : (h.above 0 seen k).1 = [] := by
      cases hk : h k with
      | none => rw [above_of_root 0 seen hk]
      | some p =>
        by_cases hp : p ∈ seen
        · rw [above_of_seen 0 hk hp]
        · rw [above_zero hk hp]
    rw [hnil]
    exact .nil (Or.inr (Or.inr rfl))
  | succ room ih =>
    cases hk : h k with
    | none =>
      rw [above_of_root _ seen hk]
      exact .nil (Or.inl hk)
    | some p =>
      by_cases hp : p ∈ seen
      · rw [above_of_seen _ hk hp]
        exact .nil (Or.inr (Or.inl ⟨p, hk, hp⟩))
      · rw [above_succ room hk hp]
        exact .cons hk hp (ih (p :: seen) p)

end Walking

/-- The lineage of a kind is one. -/
theorem isLineage_lineage (h : Hierarchy) (k : Kind) : h.IsLineage k (h.lineage k) := by
  have hwalk := walk_above h 31 [k] k
  refine ⟨rfl, hwalk.climbs, ?_, Nat.succ_le_succ hwalk.short, ?_⟩
  · exact List.nodup_cons.mpr ⟨fun hk => hwalk.fresh k hk List.mem_cons_self, hwalk.nodup⟩
  · intro x hx
    rcases hwalk.stops x hx with hnone | ⟨p, hp, hmet⟩ | hroom
    · exact Or.inl hnone
    · refine Or.inr (Or.inl ⟨p, ?_, hp⟩)
      rcases hmet with hself | habove
      · obtain rfl := List.mem_singleton.mp hself
        exact List.mem_cons_self
      · exact List.mem_cons_of_mem k habove
    · exact Or.inr (Or.inr (congrArg (· + 1) hroom))

/-! ## There is one lineage -/

/-- Two ways up from a kind are one and the same as far as the shorter goes. -/
theorem prefix_or_prefix {ks' : List Kind} (hks : (k :: ks).IsChain h.Up) (hks' : (k :: ks').IsChain h.Up) :
    ks <+: ks' ∨ ks' <+: ks := by
  induction ks generalizing k ks' with
  | nil => exact Or.inl (List.nil_prefix)
  | cons p ks ih =>
    cases ks' with
    | nil => exact Or.inr (List.nil_prefix)
    | cons p' ks' =>
      obtain ⟨hp, hrest⟩ := List.isChain_cons_cons.mp hks
      obtain ⟨hp', hrest'⟩ := List.isChain_cons_cons.mp hks'
      obtain rfl : p = p' := Option.some.inj (hp.symm.trans hp')
      rcases ih hrest hrest' with hpre | hpre
      · exact Or.inl ((List.prefix_cons_inj p).mpr hpre)
      · exact Or.inr ((List.prefix_cons_inj p).mpr hpre)

/-- A lineage does not stop where another goes on. -/
theorem IsLineage.eq_of_prefix {ks' : List Kind} (hks : h.IsLineage k ks) (hks' : h.IsLineage k ks')
    (hpre : ks <+: ks') : ks = ks' := by
  obtain ⟨rest, rfl⟩ := hpre
  cases rest with
  | nil => exact (List.append_nil ks).symm
  | cons p rest =>
    exfalso
    obtain ⟨x, hx⟩ : ∃ x, ks.getLast? = some x := by
      cases hlast : ks.getLast? with
      | none =>
        obtain rfl := List.getLast?_eq_none_iff.mp hlast
        nomatch hks.starts
      | some x => exact ⟨x, rfl⟩
    have hp : h x = some p := (List.isChain_append.mp hks'.climbs).2.2 x hx p rfl
    have hnew : p ∉ ks := fun hmem =>
      List.disjoint_of_nodup_append hks'.nodup hmem List.mem_cons_self
    have hlength := hks'.short
    rw [List.length_append, List.length_cons] at hlength
    rcases hks.stops x hx with hnone | ⟨q, hq, hxq⟩ | hlong
    · nomatch hnone.symm.trans hp
    · obtain rfl : q = p := Option.some.inj (hxq.symm.trans hp)
      exact hnew hq
    · omega

/-- **There is no other lineage than the one that is computed.** -/
theorem isLineage_iff : h.IsLineage k ks ↔ ks = h.lineage k := by
  constructor
  · intro hks
    have hlineage := isLineage_lineage h k
    obtain ⟨rest, rfl⟩ : ∃ rest, ks = k :: rest := List.head?_eq_some_iff.mp hks.starts
    rcases prefix_or_prefix hks.climbs hlineage.climbs with hpre | hpre
    · exact hks.eq_of_prefix hlineage ((List.prefix_cons_inj k).mpr hpre)
    · exact (hlineage.eq_of_prefix hks ((List.prefix_cons_inj k).mpr hpre)).symm
  · rintro rfl
    exact isLineage_lineage h k

/-- Where there is always another kind above, it stops at 32. -/
example : (Hierarchy.lineage (fun k => some ⟨k.name ++ "."⟩) ⟨"k"⟩).length = 32 := by rfl

/-! ## What can be reached -/

theorem reaches_of_isChain (hks : (k :: ks).IsChain h.Up) {x : Kind} (hx : x ∈ k :: ks) : h.Reaches k x := by
  induction ks generalizing k with
  | nil =>
    obtain rfl := List.mem_singleton.mp hx
    exact .refl
  | cons p ks ih =>
    obtain ⟨hp, hrest⟩ := List.isChain_cons_cons.mp hks
    rcases List.mem_cons.mp hx with rfl | hx
    · exact .refl
    · exact .head hp (ih hrest hx)

theorem IsLineage.reaches (hks : h.IsLineage k ks) {x : Kind} (hx : x ∈ ks) : h.Reaches k x := by
  obtain ⟨rest, rfl⟩ := List.head?_eq_some_iff.mp hks.starts
  exact reaches_of_isChain hks.climbs hx

/-- A list without repetitions that only has kinds that can be reached has room for one more only up to 32. -/
theorem Shallow.length_lt (hk : h.Shallow k) (hnodup : ks.Nodup) (hreach : ∀ x ∈ ks, h.Reaches k x) (hp : p ∉ ks)
    (hpreach : h.Reaches k p) : ks.length < 32 :=
  hk (p :: ks) (List.nodup_cons.mpr ⟨hp, hnodup⟩) (List.forall_mem_cons.mpr ⟨hpreach, hreach⟩)

/-- A lineage has the kind above each of its kinds, if it was not its length that stopped it. -/
theorem IsLineage.closed (hks : h.IsLineage k ks) (hk : h.Shallow k) {x : Kind} (hx : x ∈ ks) (hp : h x = some p) :
    p ∈ ks := by
  obtain ⟨before, after, hsplit⟩ := List.mem_iff_append.mp hx
  cases after with
  | nil =>
    -- the kind is the last one, so something stopped the walk there
    have hlast : ks.getLast? = some x := by rw [hsplit, List.getLast?_append, List.getLast?_singleton, Option.some_or]
    rcases hks.stops x hlast with hnone | ⟨q, hq, hxq⟩ | hlong
    · nomatch hnone.symm.trans hp
    · obtain rfl : q = p := Option.some.inj (hxq.symm.trans hp)
      exact hq
    · by_contra hnew
      have hreach : ∀ y ∈ ks, h.Reaches k y := fun y hy => hks.reaches hy
      have hlt := hk.length_lt hks.nodup hreach hnew ((hreach x hx).tail hp)
      omega
  | cons q after =>
    have hclimbs := hks.climbs
    rw [hsplit] at hclimbs
    have hq : h x = some q := (List.isChain_cons_cons.mp (List.isChain_append.mp hclimbs).2.1).1
    obtain rfl : q = p := Option.some.inj (hq.symm.trans hp)
    rw [hsplit]
    exact List.mem_append_right before (List.mem_cons_of_mem x List.mem_cons_self)

/-- **If no more than 32 kinds can be reached, the lineage has them all**, and no other. -/
theorem mem_lineage_iff_reaches (hk : h.Shallow k) {x : Kind} : x ∈ h.lineage k ↔ h.Reaches k x := by
  have hlineage := isLineage_lineage h k
  refine ⟨hlineage.reaches, fun hreach => ?_⟩
  induction hreach with
  | refl => exact List.mem_cons_self
  | tail _ hp ih => exact hlineage.closed hk ih hp

/-- Going on from the lineage of the kind above, if the kind itself is not met again. -/
theorem IsLineage.cons (hp : h k = some p) (hks : h.IsLineage p ks) (hk : h.Shallow k) (hnew : k ∉ ks) :
    h.IsLineage k (k :: ks) := by
  have hreach : ∀ x ∈ ks, h.Reaches k x := fun x hx => .head hp (hks.reaches hx)
  have hlength : ks.length < 32 := hk.length_lt hks.nodup hreach hnew .refl
  obtain ⟨rest, rfl⟩ := List.head?_eq_some_iff.mp hks.starts
  refine ⟨rfl, hks.climbs.cons_cons hp, List.nodup_cons.mpr ⟨hnew, hks.nodup⟩, hlength, ?_⟩
  intro x hx
  rw [List.getLast?_cons_cons] at hx
  rcases hks.stops x hx with hnone | ⟨q, hq, hxq⟩ | hlong
  · exact Or.inl hnone
  · exact Or.inr (Or.inl ⟨q, List.mem_cons_of_mem k hq, hxq⟩)
  · omega

/-- **The lineage of a kind goes on as that of the kind above.** -/
theorem lineage_eq_cons (hp : h k = some p) (hk : h.Shallow k) (hnew : k ∉ h.lineage p) :
    h.lineage k = k :: h.lineage p :=
  (isLineage_iff.mp (IsLineage.cons hp (isLineage_lineage h p) hk hnew)).symm

/-- No more kinds can be reached than a list has that is closed under going up. -/
theorem shallow_of_closed (hk : k ∈ ks) (hclosed : ∀ x ∈ ks, ∀ p ∈ h x, p ∈ ks) (hshort : ks.length ≤ 32) :
    h.Shallow k := by
  have hreach : ∀ x, h.Reaches k x → x ∈ ks := by
    intro x hx
    induction hx with
    | refl => exact hk
    | tail _ hp ih => exact hclosed _ ih _ hp
  intro reached hnodup hreached
  have hsub : reached ⊆ ks := fun x hx => hreach x (hreached x hx)
  exact Nat.le_trans (hnodup.subperm hsub).length_le hshort

end Hierarchy

/-- A kind without a mapper of its own is answered like the kind above, unless it is met again from there. -/
theorem mapperFor_ofException_above {h : Hierarchy} {k p : Kind} (hp : h k = some p) (hk : h.Shallow k)
    (hnew : k ∉ h.lineage p) {Rep : Type} {r : Resolver Rep} (hnone : Mapper.at? r.entries k = none)
    (fault fault' : Fault) :
    r.mapperFor (.ofException h k fault) = r.mapperFor (.ofException h p fault') := by
  show ((h.lineage k).findSome? (Mapper.at? r.entries)).getD r.default = _
  rw [Hierarchy.lineage_eq_cons hp hk hnew, List.findSome?_cons, hnone]
  rfl

/-- **The lineage of a kind lists the kinds above it**, whatever the kinds say about each other.

    The lineage that is computed is the only list that starts with the kind, goes up step by step without meeting a
    kind twice and with at most 32 kinds, and stops only where it must.  If no more than 32 kinds can be reached from
    the kind, these are the kinds of its lineage.  In that case a failure of this kind is answered by the mapper that
    answers failures of the kind directly above, if the kind has no mapper of its own and is not in the lineage of
    the one above. -/
theorem lineage_lists_those_above (h : Hierarchy) (k : Kind) :
    (∀ ks, h.IsLineage k ks ↔ ks = h.lineage k) ∧
    (h.Shallow k →
      (∀ x, x ∈ h.lineage k ↔ h.Reaches k x) ∧
      ∀ p, h k = some p → k ∉ h.lineage p → ∀ (Rep : Type) (r : Resolver Rep), Mapper.at? r.entries k = none →
        ∀ fault fault', r.mapperFor (.ofException h k fault) = r.mapperFor (.ofException h p fault')) := by
  refine ⟨fun ks => Hierarchy.isLineage_iff, fun hk => ⟨fun x => Hierarchy.mem_lineage_iff_reaches hk, ?_⟩⟩
  intro p hp hnew Rep r hnone fault fault'
  exact mapperFor_ofException_above hp hk hnew hnone fault fault'

/-- A tail that leads into a cycle: the cycle is met once, and the tail is answered like the kind above it. -/
theorem lineage_lists_those_above_cycle :
    let h : Hierarchy := fun k =>
      if k.name = "leaf" then some ⟨"middle"⟩ else if k.name = "middle" then some ⟨"base"⟩
      else if k.name = "base" then some ⟨"middle"⟩ else none
    let r : Resolver String := ⟨[(⟨"base"⟩, { reply := fun f => "base: " ++ f.text })], { reply := fun _ => "other" }⟩
    h.IsLineage ⟨"leaf"⟩ [⟨"leaf"⟩, ⟨"middle"⟩, ⟨"base"⟩] ∧ h.Reaches ⟨"leaf"⟩ ⟨"base"⟩ ∧
    ∀ fault fault', r.mapperFor (.ofException h ⟨"leaf"⟩ fault) = r.mapperFor (.ofException h ⟨"middle"⟩ fault') := by
  intro h r
  have hshallow : h.Shallow ⟨"leaf"⟩ :=
    Hierarchy.shallow_of_closed (by decide : _ ∈ [⟨"leaf"⟩, ⟨"middle"⟩, ⟨"base"⟩]) (by decide) (by decide)
  obtain ⟨hlineage, hreached⟩ := lineage_lists_those_above h ⟨"leaf"⟩
  obtain ⟨hmem, hmapper⟩ := hreached hshallow
  refine ⟨(hlineage _).mpr (by decide), (hmem _).mp (by decide), ?_⟩
  exact hmapper ⟨"middle"⟩ (by decide) (by decide) String r (by rfl)

end Switchyard
