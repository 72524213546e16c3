/-!
  Cutting a text at a separator and gluing the pieces back.  The two are inverse: gluing what was
  cut gives the text again, and cutting what was glued gives the pieces again as long as no piece
  holds the separator.
-/

namespace Switchyard.Text

/-- The pieces of a text between separators; there is always at least one. -/
def splitOn (sep : Char) : List Char → List (List Char)
  | [] => [[]]
  | c :: cs =>
    if c = sep then [] :: splitOn sep cs
    else match splitOn sep cs with
      | [] => [[c]]
      | p :: ps => (c :: p) :: ps

/-- The pieces in order with the separator between neighbours. -/
def join (sep : Char) : List (List Char) → List Char
  | [] => []
  | [p] => p
  | p :: q :: ps => p ++ sep :: join sep (q :: ps)

theorem splitOn_ne_nil (sep : Char) (cs : List Char) : splitOn sep cs ≠ [] := by
  cases cs with
  | nil => simp [splitOn]
  | cons c cs =>
    simp only [splitOn]
    split
    · simp
    · split <;> simp

theorem join_splitOn (sep : Char) (cs : List Char) : join sep (splitOn sep cs) = cs := by
  induction cs with
  | nil => rfl
  | cons c cs ih =>
    simp only [splitOn]
    split
    · rename_i h
      cases hs : splitOn sep cs with
      | nil => exact absurd hs (splitOn_ne_nil sep cs)
      | cons p ps =>
        rw [hs] at ih
        simp [join, ih, h]
    · cases hs : splitOn sep cs with
      | nil => exact absurd hs (splitOn_ne_nil sep cs)
      | cons p ps =>
        rw [hs] at ih
        cases ps with
        | nil => simpa [join] using ih
        | cons q qs => simpa [join] using ih

/-- A piece without the separator is one piece. -/
theorem splitOn_of_notMem {sep : Char} {p : List Char} (h : sep ∉ p) : splitOn sep p = [p] := by
  induction p with
  | nil => rfl
  | cons c cs ih =>
    simp only [List.mem_cons, not_or] at h
    simp [splitOn, Ne.symm h.1, ih h.2]

theorem splitOn_append_cons {sep : Char} {p : List Char} (h : sep ∉ p) (cs : List Char) :
    splitOn sep (p ++ sep :: cs) = p :: splitOn sep cs := by
  induction p with
  | nil => simp [splitOn]
  | cons c p ih =>
    simp only [List.mem_cons, not_or] at h
    simp [splitOn, Ne.symm h.1, ih h.2]

theorem splitOn_join {sep : Char} {ps : List (List Char)} (hne : ps ≠ [])
    (h : ∀ p ∈ ps, sep ∉ p) : splitOn sep (join sep ps) = ps := by
  induction ps with
  | nil => exact absurd rfl hne
  | cons p ps ih =>
    cases ps with
    | nil => exact splitOn_of_notMem (h p (by simp))
    | cons q qs =>
      rw [join, splitOn_append_cons (h p (by simp)), ih (by simp)]
      exact fun r hr => h r (by simp [hr])

/-- No piece holds the separator. -/
theorem notMem_of_mem_splitOn {sep : Char} {cs p : List Char} (hp : p ∈ splitOn sep cs) :
    sep ∉ p := by
  induction cs generalizing p with
  | nil => simp_all [splitOn]
  | cons c cs ih =>
    simp only [splitOn] at hp
    split at hp
    · rcases List.mem_cons.mp hp with rfl | hp
      · simp
      · exact ih hp
    · rename_i hc
      cases hs : splitOn sep cs with
      | nil => exact absurd hs (splitOn_ne_nil sep cs)
      | cons q qs =>
        rw [hs] at hp ih
        rcases List.mem_cons.mp hp with rfl | hp
        · simp only [List.mem_cons, not_or]
          exact ⟨Ne.symm hc, ih (by simp)⟩
        · exact ih (by simp [hp])

/-- The pieces of a string between slashes. -/
def slashPieces (s : String) : List String := (splitOn '/' s.toList).map String.ofList

/-- Pieces with a slash between neighbours. -/
def slashJoin (ps : List String) : String := String.ofList (join '/' (ps.map String.toList))

theorem slashJoin_slashPieces (s : String) : slashJoin (slashPieces s) = s := by
  simp [slashJoin, slashPieces, List.map_map, Function.comp_def, join_splitOn]

end Switchyard.Text
