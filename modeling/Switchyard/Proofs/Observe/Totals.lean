import Mathlib.Data.List.Induction
import Mathlib.Data.String.Basic
import Switchyard.Observe.Observation

/-!
  Totals.

  The totals of a record are kept under sorted keys (`sorted_bump`), so the place where a key is looked for
  is the place where it stands.  Main statement: `total_eq_countP` — the total under a key is the number of
  entries of that series.
-/

namespace Switchyard

namespace Observation

/-- The total under a key; a key that does not stand among the totals has none. -/
def total (key : String) (totals : List (String × Nat)) : Nat := (totals.lookup key).getD 0

/-- The keys stand in order, none twice. -/
def Sorted (totals : List (String × Nat)) : Prop := totals.Pairwise fun t t' => t.1 < t'.1

theorem total_cons (key k : String) (n : Nat) (rest : List (String × Nat)) :
    total key ((k, n) :: rest) = if key = k then n else total key rest := by
  rw [total, List.lookup_cons]
  by_cases h : key = k
  · rw [if_pos h, beq_iff_eq.mpr h]
    rfl
  · rw [if_neg h, beq_false_of_ne h]
    rfl

/-- A key below all others does not stand among them. -/
theorem total_of_lt {key : String} {totals : List (String × Nat)} (h : ∀ t ∈ totals, key < t.1) :
    total key totals = 0 := by
  induction totals with
  | nil => rfl
  | cons t rest ih =>
    obtain ⟨ht, hrest⟩ := List.forall_mem_cons.mp h
    rw [total_cons, if_neg ht.ne, ih hrest]

theorem mem_bump {key : String} {totals : List (String × Nat)} {t : String × Nat}
    (h : t ∈ bump key totals) : t.1 = key ∨ ∃ t' ∈ totals, t'.1 = t.1 := by
  induction totals with
  | nil =>
    obtain rfl := List.mem_singleton.mp h
    exact Or.inl rfl
  | cons entry rest ih =>
    obtain ⟨k, n⟩ := entry
    rw [bump] at h
    split at h
    · rename_i heq
      rcases List.mem_cons.mp h with rfl | h
      · exact Or.inl heq.symm
      · exact Or.inr ⟨t, List.mem_cons_of_mem _ h, rfl⟩
    · split at h
      · rcases List.mem_cons.mp h with rfl | h
        · exact Or.inl rfl
        · exact Or.inr ⟨t, h, rfl⟩
      · rcases List.mem_cons.mp h with rfl | h
        · exact Or.inr ⟨_, List.mem_cons_self, rfl⟩
        · rcases ih h with hkey | ⟨t', ht', hk⟩
          · exact Or.inl hkey
          · exact Or.inr ⟨t', List.mem_cons_of_mem _ ht', hk⟩

/-- **Adding one to a total keeps the keys sorted.** -/
theorem sorted_bump {totals : List (String × Nat)} (h : Sorted totals) (key : String) :
    Sorted (bump key totals) := by
  induction totals with
  | nil => exact List.pairwise_singleton _ _
  | cons entry rest ih =>
    obtain ⟨k, n⟩ := entry
    obtain ⟨hk, hrest⟩ := List.pairwise_cons.mp h
    rw [bump]
    split
    · exact List.pairwise_cons.mpr ⟨hk, hrest⟩
    · rename_i hne
      split
      · rename_i hlt
        have hbelow : ∀ t ∈ (k, n) :: rest, key < t.1 :=
          List.forall_mem_cons.mpr ⟨hlt, fun t ht => hlt.trans (hk t ht)⟩
        exact List.pairwise_cons.mpr ⟨hbelow, h⟩
      · rename_i hle
        have hkey : k < key := lt_of_le_of_ne (not_lt.mp hle) (Ne.symm hne)
        refine List.pairwise_cons.mpr ⟨fun t ht => ?_, ih hrest⟩
        rcases mem_bump ht with ht | ⟨t', ht', hsame⟩
        · rw [ht]
          exact hkey
        · rw [← hsame]
          exact hk t' ht'

/-- **Adding one to a total adds one under its key and nothing elsewhere.** -/
theorem total_bump {totals : List (String × Nat)} (h : Sorted totals) (key key' : String) :
    total key' (bump key totals) = total key' totals + if key' = key then 1 else 0 := by
  induction totals with
  | nil => exact (total_cons ..).trans (Nat.zero_add _).symm
  | cons entry rest ih =>
    obtain ⟨k, n⟩ := entry
    obtain ⟨hk, hrest⟩ := List.pairwise_cons.mp h
    -- the key stands here, or belongs in front of here, or farther on
    rcases lt_trichotomy key k with hlt | rfl | hgt
    · rw [bump, if_neg hlt.ne, if_pos hlt, total_cons]
      by_cases hkey : key' = key
      · have habsent : total key' ((k, n) :: rest) = 0 := by
          refine total_of_lt (List.forall_mem_cons.mpr ⟨hkey ▸ hlt, fun t ht => ?_⟩)
          exact hkey ▸ hlt.trans (hk t ht)
        rw [if_pos hkey, if_pos hkey, habsent]
      · rw [if_neg hkey, if_neg hkey]
        rfl
    · rw [bump, if_pos rfl, total_cons, total_cons]
      by_cases hkey : key' = key
      · rw [if_pos hkey, if_pos hkey, if_pos hkey]
      · rw [if_neg hkey, if_neg hkey, if_neg hkey]
        rfl
    · rw [bump, if_neg hgt.ne', if_neg hgt.not_gt, total_cons, total_cons, ih hrest]
      by_cases hkey : key' = k
      · rw [if_pos hkey, if_pos hkey, if_neg (hkey ▸ hgt.ne)]
        rfl
      · rw [if_neg hkey, if_neg hkey]

theorem sorted_totals (ms : List Metric) :
    Sorted (ms.foldl (fun acc m => bump m.series acc) []) := by
  induction ms using List.reverseRecOn with
  | nil => exact .nil
  | append_singleton ms m ih =>
    rw [List.foldl_append]
    exact sorted_bump ih m.series

/-- **The total under a key is the number of entries of that series.** -/
theorem total_eq_countP (record : List Observation) (key : String) :
    total key (totals record) = (metrics record).countP (·.series = key) := by
  rw [totals]
  induction metrics record using List.reverseRecOn with
  | nil => rfl
  | append_singleton ms m ih =>
    rw [List.foldl_append, List.countP_append, ← ih]
    show total key (bump m.series _) = _
    rw [total_bump (sorted_totals ms), List.countP_singleton]
    by_cases h : m.series = key
    · rw [if_pos h.symm, if_pos (decide_eq_true h)]
    · rw [if_neg (Ne.symm h), if_neg (by rwa [decide_eq_true_eq])]

end Observation
end Switchyard
