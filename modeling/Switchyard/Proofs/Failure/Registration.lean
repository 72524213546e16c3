import Switchyard.Failure.Mapper

/-!
  Which mapper a table of mappers answers a failure with, told by the registrations that made the table.

  Of the registrations for one kind the last counts (`Registration.lastFor?`), and so does the last
  registration for all other failures (`lastDefault?`).  A failure is answered by the nearest kind of its
  lineage (`Nearest`).

  * `at?_table`         — a table holds, for every kind, the mapper that was registered last;
  * `nearest_mapperFor` — a resolver applies the mapper of the nearest kind;
  * `Nearest.unique`    — there is only one such mapper.
-/

namespace Switchyard

/-- One registration of a mapper. -/
inductive Registration (Rep : Type) where
  /-- For the failures of a kind, and of the kinds below it. -/
  | kind (k : Kind) (m : Mapper Rep)
  /-- For all other failures. -/
  | default (m : Mapper Rep)

namespace Registration

variable {Rep : Type}

/-- Register. -/
def apply (ms : Mappers Rep) : Registration Rep → Mappers Rep
  | kind k m => ms.register k m
  | default m => ms.registerDefault m

/-- The mappers after registrations on an empty table. -/
def table (regs : List (Registration Rep)) : Mappers Rep := regs.foldl apply {}

/-- The mapper that a registration is about, if it is for this kind. -/
def for? (k : Kind) : Registration Rep → Option (Mapper Rep)
  | kind k' m => if k' = k then some m else none
  | default _ => none

/-- The mapper that a registration is about, if it is for all other failures. -/
def default? : Registration Rep → Option (Mapper Rep)
  | kind .. => none
  | default m => some m

/-- The mapper that was registered last for a kind. -/
def lastFor? (regs : List (Registration Rep)) (k : Kind) : Option (Mapper Rep) :=
  (regs.filterMap (for? k)).getLast?

/-- The mapper that was registered last for all other failures. -/
def lastDefault? (regs : List (Registration Rep)) : Option (Mapper Rep) :=
  (regs.filterMap default?).getLast?

end Registration

/-- The mapper that answers a lineage: the one registered last for the nearest kind that has one, and the
    one registered last for all other failures if no kind of the lineage has any. -/
inductive Nearest {Rep : Type} (regs : List (Registration Rep)) (lineage : List Kind) :
    Mapper Rep → Prop where
  | kind {nearer farther : List Kind} {k : Kind} {m : Mapper Rep}
      (hlineage : lineage = nearer ++ k :: farther) (hlast : Registration.lastFor? regs k = some m)
      (hnearer : ∀ k' ∈ nearer, Registration.lastFor? regs k' = none) : Nearest regs lineage m
  | default {m : Mapper Rep} (hnone : ∀ k ∈ lineage, Registration.lastFor? regs k = none)
      (hlast : Registration.lastDefault? regs = some m) : Nearest regs lineage m

section Tables

variable {Rep : Type}

/-! ## Looking a kind up -/

theorem at?_cons (k' : Kind) (m : Mapper Rep) (entries : List (Kind × Mapper Rep)) (k : Kind) :
    Mapper.at? ((k', m) :: entries) k = if k' = k then some m else Mapper.at? entries k := by
  rw [Mapper.at?, List.find?_cons]
  by_cases h : k' = k
  · rw [if_pos h, decide_eq_true h]
    rfl
  · rw [if_neg h, decide_eq_false h]
    rfl

/-- An entry that is put last is found if there is no other. -/
theorem at?_append_singleton (entries : List (Kind × Mapper Rep)) (k' : Kind) (m : Mapper Rep)
    (hnew : ∀ e ∈ entries, e.1 ≠ k') (k : Kind) :
    Mapper.at? (entries ++ [(k', m)]) k = if k' = k then some m else Mapper.at? entries k := by
  induction entries with
  | nil => exact at?_cons k' m [] k
  | cons e entries ih =>
    obtain ⟨k₀, m₀⟩ := e
    obtain ⟨hk₀, hrest⟩ := List.forall_mem_cons.mp hnew
    rw [List.cons_append, at?_cons, at?_cons, ih hrest]
    by_cases h₀ : k₀ = k
    · rw [if_pos h₀, if_pos h₀, if_neg fun h => hk₀ (h₀.trans h.symm)]
    · rw [if_neg h₀, if_neg h₀]

/-- Replacing the entries for one kind leaves what is found for another. -/
theorem at?_replace_of_ne {k' k : Kind} (hne : k' ≠ k) (m : Mapper Rep)
    (entries : List (Kind × Mapper Rep)) :
    Mapper.at? (entries.map fun e => if e.1 = k' then (k', m) else e) k = Mapper.at? entries k := by
  induction entries with
  | nil => rfl
  | cons e entries ih =>
    obtain ⟨k₀, m₀⟩ := e
    rw [List.map_cons, at?_cons k₀]
    by_cases h₀ : k₀ = k'
    · rw [if_pos h₀, at?_cons, if_neg hne, if_neg fun h => hne (h₀.symm.trans h), ih]
    · rw [if_neg h₀, at?_cons, ih]

/-- Replacing the entries for a kind is finding the new one, if there were any. -/
theorem at?_replace_self (k : Kind) (m : Mapper Rep) {entries : List (Kind × Mapper Rep)}
    (hold : ∃ e ∈ entries, e.1 = k) :
    Mapper.at? (entries.map fun e => if e.1 = k then (k, m) else e) k = some m := by
  induction entries with
  | nil =>
    obtain ⟨e, he, -⟩ := hold
    nomatch he
  | cons e entries ih =>
    obtain ⟨k₀, m₀⟩ := e
    rw [List.map_cons]
    by_cases h₀ : k₀ = k
    · rw [if_pos h₀, at?_cons, if_pos rfl]
    · rw [if_neg h₀, at?_cons, if_neg h₀]
      refine ih ?_
      obtain ⟨e, he, hek⟩ := hold
      rcases List.mem_cons.mp he with rfl | he
      · exact absurd hek h₀
      · exact ⟨e, he, hek⟩

/-- Registering a mapper for a kind changes what is found for that kind and for no other. -/
theorem at?_register (ms : Mappers Rep) (k' : Kind) (m : Mapper Rep) (k : Kind) :
    Mapper.at? (ms.register k' m).entries k = if k' = k then some m else Mapper.at? ms.entries k := by
  rw [Mappers.register]
  by_cases hold : ms.entries.any (·.1 = k') = true
  · rw [if_pos hold]
    by_cases hk : k' = k
    · rw [if_pos hk, ← hk]
      obtain ⟨e, he, hek⟩ := List.any_eq_true.mp hold
      exact at?_replace_self k' m ⟨e, he, of_decide_eq_true hek⟩
    · rw [if_neg hk]
      exact at?_replace_of_ne hk m ms.entries
  · rw [if_neg hold]
    refine at?_append_singleton ms.entries k' m (fun e he hek => hold ?_) k
    exact List.any_eq_true.mpr ⟨e, he, decide_eq_true hek⟩

/-! ## Tables made by registrations -/

namespace Registration

/-- What is found for a kind in a table: the mapper that was registered last, or else what the table had
    to begin with. -/
theorem at?_foldl_apply (ms : Mappers Rep) (regs : List (Registration Rep)) (k : Kind) :
    Mapper.at? (regs.foldl apply ms).entries k = (lastFor? regs k).or (Mapper.at? ms.entries k) := by
  induction regs generalizing ms with
  | nil => rfl
  | cons reg regs ih =>
    rw [List.foldl_cons, ih, lastFor?, lastFor?]
    cases reg with
    | default m => rfl
    | kind k' m =>
      rw [apply, at?_register]
      by_cases hk : k' = k
      · have hfor : for? k (kind k' m) = some m := if_pos hk
        rw [if_pos hk, List.filterMap_cons_some hfor, List.getLast?_cons]
        cases (regs.filterMap (for? k)).getLast? with
        | none => rfl
        | some m' => rfl
      · have hfor : for? k (kind k' m) = none := if_neg hk
        rw [if_neg hk, List.filterMap_cons_none hfor]

theorem default?_foldl_apply (ms : Mappers Rep) (regs : List (Registration Rep)) :
    (regs.foldl apply ms).default? = (lastDefault? regs).or ms.default? := by
  induction regs generalizing ms with
  | nil => rfl
  | cons reg regs ih =>
    rw [List.foldl_cons, ih, lastDefault?, lastDefault?]
    cases reg with
    | kind k m => rfl
    | default m =>
      have hdefault : default? (default m) = some m := rfl
      rw [List.filterMap_cons_some hdefault, List.getLast?_cons]
      cases (regs.filterMap default?).getLast? with
      | none => rfl
      | some m' => rfl

/-- **A table holds, for every kind, the mapper that was registered last.** -/
theorem at?_table (regs : List (Registration Rep)) (k : Kind) :
    Mapper.at? (table regs).entries k = lastFor? regs k := by
  rw [table, at?_foldl_apply]
  exact Option.or_none

theorem default?_table (regs : List (Registration Rep)) :
    (table regs).default? = lastDefault? regs := by
  rw [table, default?_foldl_apply]
  exact Option.or_none

/-- A resolver can be built if a mapper for all other failures was registered. -/
theorem exists_build {regs : List (Registration Rep)} {m : Mapper Rep}
    (h : Registration.default m ∈ regs) : ∃ r, (table regs).build = .ok r := by
  have hmem : m ∈ regs.filterMap default? := List.mem_filterMap.mpr ⟨_, h, rfl⟩
  obtain ⟨last, hlast⟩ : ∃ last, (regs.filterMap default?).getLast? = some last :=
    ⟨_, List.getLast?_eq_some_getLast (List.ne_nil_of_mem hmem)⟩
  refine ⟨⟨(table regs).entries, last⟩, ?_⟩
  rw [Mappers.build, default?_table, lastDefault?, hlast]

end Registration

/-! ## The nearest mapper -/

/-- What a resolver is made of. -/
theorem resolver_of_build {ms : Mappers Rep} {r : Resolver Rep} (h : ms.build = .ok r) :
    r.entries = ms.entries ∧ ms.default? = some r.default := by
  rw [Mappers.build] at h
  cases hdefault : ms.default? with
  | none =>
    rw [hdefault] at h
    nomatch h
  | some m =>
    rw [hdefault] at h
    obtain rfl := Except.ok.inj h
    exact ⟨rfl, rfl⟩

/-- **A resolver applies the mapper of the nearest kind that has one**, and the one for all other
    failures if none has. -/
theorem nearest_mapperFor {regs : List (Registration Rep)} {r : Resolver Rep}
    (h : (Registration.table regs).build = .ok r) (f : Failure) :
    Nearest regs f.lineage (r.mapperFor f) := by
  obtain ⟨hentries, hdefault⟩ := resolver_of_build h
  rw [Registration.default?_table] at hdefault
  have hat : Mapper.at? r.entries = Registration.lastFor? regs := by
    rw [hentries]
    exact funext (Registration.at?_table regs)
  rw [Resolver.mapperFor, hat]
  cases hfind : f.lineage.findSome? (Registration.lastFor? regs) with
  | none => exact .default (List.findSome?_eq_none_iff.mp hfind) hdefault
  | some m =>
    obtain ⟨nearer, k, farther, hlineage, hlast, hnearer⟩ := List.findSome?_eq_some_iff.mp hfind
    exact .kind hlineage hlast hnearer

theorem findSome?_of_nearest {regs : List (Registration Rep)} {lineage : List Kind} {m : Mapper Rep}
    (h : Nearest regs lineage m) :
    (lineage.findSome? (Registration.lastFor? regs)).or (Registration.lastDefault? regs) = some m := by
  cases h with
  | kind hlineage hlast hnearer =>
    rw [List.findSome?_eq_some_iff.mpr ⟨_, _, _, hlineage, hlast, hnearer⟩]
    rfl
  | default hnone hlast =>
    rw [List.findSome?_eq_none_iff.mpr hnone, hlast]
    rfl

/-- There is only one nearest mapper. -/
theorem Nearest.unique {regs : List (Registration Rep)} {lineage : List Kind} {m m' : Mapper Rep}
    (h : Nearest regs lineage m) (h' : Nearest regs lineage m') : m = m' :=
  Option.some.inj ((findSome?_of_nearest h).symm.trans (findSome?_of_nearest h'))

end Tables
end Switchyard
