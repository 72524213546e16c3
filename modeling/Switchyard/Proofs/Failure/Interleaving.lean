import Switchyard.Failure.Cache
import Switchyard.Proofs.Failure.Registration

/-!
  Resolutions that run at the same time and share one cache.

  A resolution takes up to three steps: it looks its kind up, walks the lineage, and puts the mapper that
  it found into the cache.  The steps of any number of resolutions come in any order
  (`Resolutions.run`).

  1. **What a cache may know.**  The cache is keyed by kinds, and a kind tells the whole lineage of a failure that
     was made of it (`Failure.Made`).  So failures of one kind have one mapper (`mapperFor_congr`), and what one
     resolution puts into the cache is right for every other.

  2. **The invariant.**  Every resolution under way has the mapper that it would have without the cache, and so has
     every entry of the cache (`Resolutions.Right`).  A step preserves it (`Right.advance`), and so does a run
     (`Right.run`).

  3. **Every call is answered.**  A step takes a resolution further, unless it is over (`stepsLeft_advance`); after
     three steps of its own it has found something, whatever the others did in between
     (`found_of_three_le_count`).

  The main statement is `resolution_is_transparent`.
-/

namespace Switchyard

/-! ## Failures and their kinds -/

/-- The failures that can be made where the kinds stand in a hierarchy. -/
inductive Failure.Made (h : Hierarchy) : Failure → Prop where
  /-- Of an exception of some kind. -/
  | exception (k : Kind) (fault : Fault) : Made h (.ofException h k fault)
  /-- Of an exception with a status, above whose kind there is none. -/
  | http (hroot : h HttpException.kind = none) (e : HttpException) : Made h (.ofHttp e)
  /-- Of any other error value. -/
  | fault (fault : Fault) : Made h (.ofFault fault)

/-- A kind with nothing above it is its whole lineage. -/
theorem lineage_of_root {h : Hierarchy} {k : Kind} (hroot : h k = none) : h.lineage k = [k] := by
  rw [Hierarchy.lineage, Hierarchy.above, hroot]

/-- **The kind of a failure tells its lineage.** -/
theorem Failure.Made.lineage_eq {h : Hierarchy} {f : Failure} (hf : f.Made h) {k : Kind}
    (hk : f.kind? = some k) : f.lineage = h.lineage k := by
  cases hf with
  | exception k' fault =>
    obtain rfl : k' = k := Option.some.inj hk
    rfl
  | http hroot e =>
    obtain rfl : HttpException.kind = k := Option.some.inj hk
    rw [lineage_of_root hroot]
    rfl
  | fault fault => nomatch hk

section

variable {Rep : Type} {r : Resolver Rep}

theorem mapperFor_congr {f g : Failure} (h : f.lineage = g.lineage) :
    r.mapperFor f = r.mapperFor g := by
  rw [Resolver.mapperFor, Resolver.mapperFor, h]

/-- A failure without lineage is answered by the default mapper. -/
theorem mapperFor_of_kind?_eq_none {f : Failure} (h : f.kind? = none) :
    r.mapperFor f = r.default := by
  have hlineage : f.lineage = [] := List.head?_eq_none_iff.mp h
  rw [Resolver.mapperFor, hlineage]
  rfl

/-- What is found in a table is one of its entries. -/
theorem mem_of_at? {entries : List (Kind × Mapper Rep)} {k : Kind} {m : Mapper Rep}
    (h : Mapper.at? entries k = some m) : (k, m) ∈ entries := by
  obtain ⟨e, he, rfl⟩ := Option.map_eq_some_iff.mp h
  have hfound := List.find?_some he
  obtain rfl : e.1 = k := of_decide_eq_true hfound
  exact List.mem_of_find?_eq_some he

end

/-! ## One resolution -/

namespace Resolution

variable {Rep : Type}

/-- The failure that is resolved. -/
def failure : Resolution Rep → Failure
  | fresh f | missed _ f | walked _ _ f | found _ f => f

/-- How many steps a resolution takes at most from here. -/
def stepsLeft : Resolution Rep → Nat
  | fresh _ => 3
  | missed .. => 2
  | walked .. => 1
  | found .. => 0

/-- A resolution under way has the mapper that it would have without the cache. -/
def Right (r : Resolver Rep) : Resolution Rep → Prop
  | fresh _ => True
  | missed k f => f.kind? = some k
  | walked k m f => f.kind? = some k ∧ m = r.mapperFor f
  | found m f => m = r.mapperFor f

end Resolution

/-- The entries of a cache are the mappers that failures of their kinds have without it. -/
def MapperCache.Right {Rep : Type} (h : Hierarchy) (r : Resolver Rep) (cache : MapperCache Rep) : Prop :=
  ∀ k m, (k, m) ∈ cache → ∀ f, f.Made h → f.kind? = some k → m = r.mapperFor f

namespace Resolution

variable {Rep : Type} {h : Hierarchy} {r : Resolver Rep}

theorem failure_step (c : Resolution Rep) (cache : MapperCache Rep) :
    (c.step r cache).1.failure = c.failure := by
  cases c with
  | missed k f => rfl
  | walked k m f => rfl
  | found m f => rfl
  | fresh f =>
    rw [step]
    cases f.kind? with
    | none => rfl
    | some k =>
      dsimp only
      cases Mapper.at? cache k with
      | none => rfl
      | some m => rfl

theorem stepsLeft_step (c : Resolution Rep) (cache : MapperCache Rep) :
    (c.step r cache).1.stepsLeft ≤ c.stepsLeft - 1 := by
  cases c with
  | missed k f => exact Nat.le_refl 1
  | walked k m f => exact Nat.le_refl 0
  | found m f => exact Nat.le_refl 0
  | fresh f =>
    rw [step]
    cases f.kind? with
    | none => exact Nat.zero_le 2
    | some k =>
      dsimp only
      cases Mapper.at? cache k with
      | none => exact Nat.le_refl 2
      | some m => exact Nat.zero_le 2

theorem found_of_stepsLeft {c : Resolution Rep} (hzero : c.stepsLeft = 0) :
    ∃ m, c = .found m c.failure := by
  cases c with
  | found m f => exact ⟨m, rfl⟩
  | fresh f => nomatch hzero
  | missed k f => nomatch hzero
  | walked k m f => nomatch hzero

/-- **A step keeps what is right**, in the resolution and in the cache. -/
theorem right_step {c : Resolution Rep} {cache : MapperCache Rep} (hmade : c.failure.Made h)
    (hc : c.Right r) (hcache : cache.Right h r) :
    (c.step r cache).1.Right r ∧ (c.step r cache).2.Right h r := by
  cases c with
  | found m f => exact ⟨hc, hcache⟩
  | missed k f => exact ⟨⟨hc, rfl⟩, hcache⟩
  | walked k m f =>
    obtain ⟨hk, hm⟩ := hc
    refine ⟨hm, ?_⟩
    intro k' m' hmem g hg hk'
    rcases List.mem_cons.mp hmem with heq | hold
    · -- the new entry: a failure of the same kind has the same lineage
      obtain ⟨rfl, rfl⟩ := Prod.mk.inj heq
      rw [hm]
      exact mapperFor_congr ((hmade.lineage_eq hk).trans (hg.lineage_eq hk').symm)
    · exact hcache k' m' hold g hg hk'
  | fresh f =>
    rw [step]
    cases hk : f.kind? with
    | none => exact ⟨(mapperFor_of_kind?_eq_none hk).symm, hcache⟩
    | some k =>
      dsimp only
      cases hat : Mapper.at? cache k with
      | none => exact ⟨hk, hcache⟩
      | some m => exact ⟨hcache k m (mem_of_at? hat) f hmade hk, hcache⟩

end Resolution

/-! ## Any number of resolutions -/

/-- Resolutions over one table, and the cache that they share. -/
structure Resolutions (Rep : Type) where
  calls : List (Resolution Rep)
  cache : MapperCache Rep := []

namespace Resolutions

variable {Rep : Type} {h : Hierarchy} {r : Resolver Rep}

/-- Nothing is resolved yet, and the cache is empty. -/
def start (fs : List Failure) : Resolutions Rep := { calls := fs.map .fresh }

/-- The next step of one of the resolutions. -/
def advance (r : Resolver Rep) (s : Resolutions Rep) (i : Nat) : Resolutions Rep :=
  match s.calls[i]? with
  | none => s
  | some c => ⟨s.calls.set i (c.step r s.cache).1, (c.step r s.cache).2⟩

/-- Steps of the resolutions in any order. -/
def run (r : Resolver Rep) (s : Resolutions Rep) (order : List Nat) : Resolutions Rep :=
  order.foldl (advance r) s

/-- Everything under way, and everything remembered, is as it would be without the cache. -/
structure Right (h : Hierarchy) (r : Resolver Rep) (s : Resolutions Rep) : Prop where
  made : ∀ c ∈ s.calls, c.failure.Made h
  calls : ∀ c ∈ s.calls, c.Right r
  cache : s.cache.Right h r

theorem right_start {fs : List Failure} (hmade : ∀ f ∈ fs, f.Made h) :
    (start fs : Resolutions Rep).Right h r where
  made := List.forall_mem_map.mpr hmade
  calls := List.forall_mem_map.mpr fun _ _ => trivial
  cache := fun _ _ hmem => nomatch hmem

theorem Right.advance {s : Resolutions Rep} (hs : s.Right h r) (i : Nat) :
    (s.advance r i).Right h r := by
  rw [Resolutions.advance]
  cases hc : s.calls[i]? with
  | none => exact hs
  | some c =>
    have hmem : c ∈ s.calls := List.mem_of_getElem? hc
    obtain ⟨hright, hcache⟩ := Resolution.right_step (hs.made c hmem) (hs.calls c hmem) hs.cache
    refine ⟨?_, ?_, hcache⟩
    · intro c' hc'
      rcases List.mem_or_eq_of_mem_set hc' with hold | rfl
      · exact hs.made c' hold
      · rw [Resolution.failure_step]
        exact hs.made c hmem
    · intro c' hc'
      rcases List.mem_or_eq_of_mem_set hc' with hold | rfl
      · exact hs.calls c' hold
      · exact hright

/-- **The invariant of every interleaving**, by induction on the steps. -/
theorem Right.run {s : Resolutions Rep} (hs : s.Right h r) (order : List Nat) :
    (s.run r order).Right h r := by
  induction order generalizing s with
  | nil => exact hs
  | cons i order ih => exact ih (hs.advance i)

/-! ## Every call is answered -/

/-- The failures that are resolved, each at the place of its call. -/
theorem failure_advance (s : Resolutions Rep) (i j : Nat) :
    ((s.advance r i).calls[j]?).map Resolution.failure = (s.calls[j]?).map Resolution.failure := by
  rw [advance]
  cases hc : s.calls[i]? with
  | none => rfl
  | some c =>
    show ((s.calls.set i (c.step r s.cache).1)[j]?).map Resolution.failure = _
    by_cases hij : i = j
    · rw [← hij, List.getElem?_set_self (List.getElem?_eq_some_iff.mp hc).1, hc]
      exact congrArg some (Resolution.failure_step c s.cache)
    · rw [List.getElem?_set_ne hij]

theorem failure_run (s : Resolutions Rep) (order : List Nat) (j : Nat) :
    ((s.run r order).calls[j]?).map Resolution.failure = (s.calls[j]?).map Resolution.failure := by
  induction order generalizing s with
  | nil => rfl
  | cons i order ih => exact (ih (s.advance r i)).trans (failure_advance s i j)

/-- How many steps a call takes at most from here; none if there is no such call. -/
def stepsLeft (s : Resolutions Rep) (j : Nat) : Nat :=
  ((s.calls[j]?).map Resolution.stepsLeft).getD 0

theorem stepsLeft_advance (s : Resolutions Rep) (i j : Nat) :
    (s.advance r i).stepsLeft j ≤ s.stepsLeft j - (if i = j then 1 else 0) := by
  rw [advance]
  cases hc : s.calls[i]? with
  | none =>
    by_cases hij : i = j
    · rw [stepsLeft, ← hij, hc]
      exact Nat.zero_le _
    · rw [if_neg hij]
      exact Nat.le_refl _
  | some c =>
    show ((((s.calls.set i (c.step r s.cache).1)[j]?).map Resolution.stepsLeft).getD 0) ≤ _
    by_cases hij : i = j
    · rw [← hij, if_pos rfl, stepsLeft, List.getElem?_set_self (List.getElem?_eq_some_iff.mp hc).1, hc]
      exact Resolution.stepsLeft_step c s.cache
    · rw [List.getElem?_set_ne hij, if_neg hij]
      exact Nat.le_refl _

theorem stepsLeft_run (s : Resolutions Rep) (order : List Nat) (j : Nat) :
    (s.run r order).stepsLeft j ≤ s.stepsLeft j - order.count j := by
  induction order generalizing s with
  | nil => exact Nat.le_refl _
  | cons i order ih =>
    have hrest := ih (s.advance r i)
    have hstep := stepsLeft_advance (r := r) s i j
    show ((s.advance r i).run r order).stepsLeft j ≤ _
    by_cases hij : i = j
    · subst hij
      rw [if_pos rfl] at hstep
      rw [List.count_cons_self]
      omega
    · rw [if_neg hij] at hstep
      rw [List.count_cons_of_ne hij]
      omega

/-- A call that has taken three steps is over. -/
theorem found_of_three_le_count {fs : List Failure} {order : List Nat} {i : Nat} {f : Failure}
    (hf : fs[i]? = some f) (hcount : 3 ≤ order.count i) :
    ∃ m, ((start fs).run r order).calls[i]? = some (.found m f) := by
  have hstart : ((start fs : Resolutions Rep).calls[i]?) = some (.fresh f) := by
    rw [start, List.getElem?_map, hf]
    rfl
  have hfailure := failure_run (r := r) (start fs) order i
  have hleft := stepsLeft_run (r := r) (start fs) order i
  rw [hstart] at hfailure
  rw [stepsLeft, stepsLeft, hstart] at hleft
  cases hc : ((start fs : Resolutions Rep).run r order).calls[i]? with
  | none =>
    rw [hc] at hfailure
    nomatch hfailure
  | some c =>
    rw [hc] at hfailure hleft
    obtain rfl : c.failure = f := Option.some.inj hfailure
    have hzero : c.stepsLeft ≤ 3 - order.count i := hleft
    obtain ⟨m, hm⟩ := Resolution.found_of_stepsLeft (c := c) (by omega)
    exact ⟨m, congrArg some hm⟩

/-- A call is over with the failure that it was made with. -/
theorem failure_of_found {fs : List Failure} {order : List Nat} {i : Nat} {f : Failure} {m : Mapper Rep}
    (hfound : ((start fs).run r order).calls[i]? = some (.found m f)) : fs[i]? = some f := by
  have hfailure := failure_run (r := r) (start fs) order i
  rw [hfound, start, List.getElem?_map] at hfailure
  cases hf : fs[i]? with
  | none =>
    rw [hf] at hfailure
    nomatch hfailure
  | some g =>
    rw [hf] at hfailure
    exact hfailure.symm

end Resolutions

/-! ## The cache changes nothing -/

/-- Through a cache that is right a resolution ends with the mapper that it has without the cache. -/
theorem Resolution.finish_fresh {Rep : Type} {h : Hierarchy} {r : Resolver Rep} {cache : MapperCache Rep}
    (hcache : cache.Right h r) {f : Failure} (hf : f.Made h) :
    ((fresh f).finish r cache).1 = found (r.mapperFor f) f := by
  rw [finish]
  cases hk : f.kind? with
  | none =>
    have hstep : (fresh f).step r cache = (found r.default f, cache) := by rw [step, hk]
    rw [hstep, mapperFor_of_kind?_eq_none hk]
    rfl
  | some k =>
    cases hat : Mapper.at? cache k with
    | none =>
      have hstep : (fresh f).step r cache = (missed k f, cache) := by rw [step, hk]; simp only [hat]
      rw [hstep]
      rfl
    | some m =>
      have hstep : (fresh f).step r cache = (found m f, cache) := by rw [step, hk]; simp only [hat]
      rw [hstep, ← hcache k m (mem_of_at? hat) f hf hk]
      rfl

/-- A failure that is resolved through a cache that is right is answered as without it. -/
theorem cachedReply_eq {Rep : Type} {h : Hierarchy} {r : Resolver Rep} {cache : MapperCache Rep}
    (hcache : cache.Right h r) {f : Failure} (hf : f.Made h) :
    (r.cachedReply cache f).1 = r.reply f := by
  have hfinish := Resolution.finish_fresh hcache hf
  rw [Resolver.cachedReply]
  cases hc : (Resolution.fresh f).finish r cache with
  | mk c cache' =>
    rw [hc] at hfinish
    obtain rfl : c = .found (r.mapperFor f) f := hfinish
    rfl

/-- **Resolving through the cache is transparent.**  Whatever mappers were registered, and in whatever
    order the steps of any number of resolutions come: a call is over after three steps of its own, and
    comes to the mapper of the nearest kind of its failure's lineage, which is the one that it has without
    the cache.  So is every mapper in the cache, for every failure of its kind; and a failure that is
    resolved next is answered as if none had been resolved before. -/
theorem resolution_is_transparent {Rep : Type} (h : Hierarchy) {regs : List (Registration Rep)}
    {d : Mapper Rep} (hdefault : Registration.default d ∈ regs) :
    ∃ r, (Registration.table regs).build = .ok r ∧
      ∀ fs : List Failure, (∀ f ∈ fs, f.Made h) → ∀ order : List Nat,
        let s := (Resolutions.start fs).run r order
        (∀ i f, fs[i]? = some f → 3 ≤ order.count i → ∃ m : Mapper Rep, s.calls[i]? = some (.found m f)) ∧
        (∀ (i : Nat) f m, s.calls[i]? = some (.found m f) →
          fs[i]? = some f ∧ m = r.mapperFor f ∧ Nearest regs f.lineage m) ∧
        (∀ k m, (k, m) ∈ s.cache → Nearest regs (h.lineage k) m ∧
          ∀ f, f.Made h → f.kind? = some k → m = r.mapperFor f) ∧
        (∀ f, f.Made h → (r.cachedReply s.cache f).1 = r.reply f) := by
  obtain ⟨r, hbuild⟩ := Registration.exists_build hdefault
  refine ⟨r, hbuild, ?_⟩
  intro fs hmade order s
  have hright : s.Right h r := (Resolutions.right_start hmade).run order
  refine ⟨?_, ?_, ?_, ?_⟩
  · intro i f hf hcount
    exact Resolutions.found_of_three_le_count hf hcount
  · intro i f m hfound
    have hmem : Resolution.found m f ∈ s.calls := List.mem_of_getElem? hfound
    obtain rfl : m = r.mapperFor f := hright.calls _ hmem
    exact ⟨Resolutions.failure_of_found hfound, rfl, nearest_mapperFor hbuild f⟩
  · intro k m hmem
    refine ⟨?_, hright.cache k m hmem⟩
    rw [hright.cache k m hmem (.ofException h k (.message "")) (.exception k _) rfl]
    exact nearest_mapperFor hbuild (.ofException h k (.message ""))
  · intro f hf
    exact cachedReply_eq hright.cache hf

/-- Two failures of one kind are resolved at the same time, and a message between their steps. -/
theorem resolution_is_transparent_leaf :
    let base : Kind := ⟨"Base"⟩
    let leaf : Kind := ⟨"Leaf"⟩
    let h : Hierarchy := fun k => if k = leaf then some base else none
    let first : Mapper Nat := { reply := fun _ => 1 }
    let second : Mapper Nat := { reply := fun _ => 2 }
    let rest : Mapper Nat := { reply := fun _ => 0 }
    let regs := [.kind base first, .default rest, .kind base second]
    let a := Failure.ofException h leaf (.message "a")
    let b := Failure.ofException h leaf (.message "b")
    let c := Failure.ofMessage "c"
    ∃ r, (Registration.table regs).build = .ok r ∧
      let s := (Resolutions.start [a, b, c]).run r [0, 1, 0, 2, 1, 0, 1]
      (∃ m, s.calls[0]? = some (.found m a)) ∧ (∃ m, s.calls[1]? = some (.found m b)) ∧
      (∀ f m, s.calls[1]? = some (.found m f) → Nearest regs [leaf, base] m) ∧
      (r.cachedReply s.cache a).1 = 2 ∧ (r.cachedReply s.cache c).1 = 0 := by
  intro base leaf h first second rest regs a b c
  have hdefault : Registration.default rest ∈ regs := List.mem_cons_of_mem _ List.mem_cons_self
  obtain ⟨r, hbuild, hall⟩ := resolution_is_transparent h hdefault
  have ha : a.Made h := .exception leaf _
  have hb : b.Made h := .exception leaf _
  have hc : c.Made h := .fault _
  have hmade : ∀ f ∈ [a, b, c], f.Made h :=
    List.forall_mem_cons.mpr ⟨ha, List.forall_mem_cons.mpr ⟨hb, List.forall_mem_singleton.mpr hc⟩⟩
  obtain ⟨hends, hnearest, -, hreply⟩ := hall [a, b, c] hmade [0, 1, 0, 2, 1, 0, 1]
  refine ⟨r, hbuild, hends 0 a rfl (by decide), hends 1 b rfl (by decide), ?_, ?_, ?_⟩
  · intro f m hfound
    obtain ⟨hf, -, hm⟩ := hnearest 1 f m hfound
    obtain rfl : b = f := Option.some.inj hf
    exact hm
  · rw [hreply a ha]
    obtain rfl := Except.ok.inj hbuild
    rfl
  · rw [hreply c hc]
    obtain rfl := Except.ok.inj hbuild
    rfl

end Switchyard
