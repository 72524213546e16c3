import Switchyard.Http.Target
import Switchyard.Proofs.Results

/-!
  The forms of request targets.

  A target is written in one of four forms: a path with an optional query; the same behind a scheme and an
  authority; a bare authority; or an asterisk.  Only a bare authority has no path.

  * `Target.HasForm`        — what is there, and what is not, in a target of each form;
  * `exists_form_of_parse`  — every text that is read as a target is of one of the forms.
-/

namespace Switchyard.Http

namespace Target

/-- The forms of targets. -/
inductive Form where
  | origin
  | absolute
  | authority
  | asterisk
deriving DecidableEq, Repr

/-- A path that begins with a slash. -/
def IsRooted (path : String) : Prop := path.toList.head? = some '/'

/-- A target is of a form. -/
def HasForm (t : Target) : Form → Prop
  | .origin => t.scheme? = none ∧ t.authority? = none ∧ IsRooted t.path
  | .absolute => (∃ s, t.scheme? = some s) ∧ (∃ a, t.authority? = some a) ∧ IsRooted t.path
  | .authority => t.scheme? = none ∧ (∃ a, t.authority? = some a) ∧ t.path = "" ∧ t.query? = none
  | .asterisk => t.scheme? = none ∧ t.authority? = none ∧ t.path = "*" ∧ t.query? = none

/-- A target has a path, unless there is neither path nor query in it, nor a scheme to put one behind. -/
def HasPath (t : Target) : Prop := t.path ≠ "" ∨ t.query? ≠ none ∨ t.scheme? ≠ none

/-- The target taken apart has the path and the query, if it has a path. -/
theorem parts_path? (t : Target) :
    (t.HasPath → t.parts.path? = some (t.path, t.query?)) ∧ (¬ t.HasPath → t.parts.path? = none) := by
  have hbare : (t.path.isEmpty && t.query?.isNone && t.scheme?.isNone) = true ↔ ¬ t.HasPath := by
    simp [HasPath, String.isEmpty_iff, and_assoc]
  constructor
  · intro hpath
    exact if_neg fun h => hbare.mp h hpath
  · intro hpath
    exact if_pos (hbare.mpr hpath)

/-- Of the four forms, only a bare authority has no path. -/
theorem hasPath_iff_of_hasForm {t : Target} {form : Form} (h : t.HasForm form) :
    t.HasPath ↔ form ≠ .authority := by
  have hrooted : IsRooted t.path → t.path ≠ "" := by
    intro hroot hempty
    rw [IsRooted, hempty] at hroot
    cases hroot
  cases form with
  | origin => exact ⟨nofun, fun _ => Or.inl (hrooted h.2.2)⟩
  | absolute => exact ⟨nofun, fun _ => Or.inl (hrooted h.2.2)⟩
  | asterisk =>
    have hstar : t.path ≠ "" := by
      rw [h.2.2.1]
      decide
    exact ⟨nofun, fun _ => Or.inl hstar⟩
  | authority =>
    obtain ⟨hscheme, -, hpath, hquery⟩ := h
    refine ⟨fun hhas => ?_, fun hne => absurd rfl hne⟩
    rcases hhas with hhas | hhas | hhas
    · exact absurd hpath hhas
    · exact absurd hquery hhas
    · exact absurd hscheme hhas

/-! ## What is read -/

/-- A path that begins with a slash is read as one. -/
theorem pathAndQuery_slash {cs path : List Char} {query? : Option (List Char)}
    (h : pathAndQuery ('/' :: cs) = .ok (path, query?)) : path.head? = some '/' := by
  obtain ⟨⟨rest, query'?⟩, -, h⟩ := Except.ok_of_bind h
  obtain ⟨rfl, -⟩ := Prod.mk.inj (Except.ok.inj h)
  rfl

/-- What is left behind an authority begins with a character that ends it, if anything is left. -/
theorem isEnd_of_scan {s : Authority.Seen} {cs authority rest : List Char}
    (h : Authority.scan s cs = .ok (authority, rest)) : ∀ c ∈ rest.head?, Authority.isEnd c = true := by
  induction cs generalizing s authority with
  | nil =>
    obtain ⟨-, -, h⟩ := Except.ok_of_map h
    obtain ⟨-, rfl⟩ := Prod.mk.inj h
    exact nofun
  | cons c cs ih =>
    rw [Authority.scan] at h
    by_cases hend : Authority.isEnd c = true
    · rw [if_pos hend] at h
      obtain ⟨-, -, h⟩ := Except.ok_of_map h
      obtain ⟨-, rfl⟩ := Prod.mk.inj h
      intro c' hc'
      obtain rfl : c = c' := Option.some.inj hc'
      exact hend
    · rw [if_neg hend] at h
      obtain ⟨s', -, h⟩ := Except.ok_of_bind h
      obtain ⟨⟨more, rest'⟩, hmore, h⟩ := Except.ok_of_bind h
      obtain ⟨-, rfl⟩ := Prod.mk.inj (Except.ok.inj h)
      exact ih hmore

/-- Behind an authority there is a path that begins with a slash, or none. -/
theorem pathAndQuery_behind {rest path : List Char} {query? : Option (List Char)}
    (hend : ∀ c ∈ rest.head?, Authority.isEnd c = true) (h : pathAndQuery rest = .ok (path, query?)) :
    path = [] ∨ path.head? = some '/' := by
  cases rest with
  | nil =>
    obtain ⟨rfl, -⟩ := Prod.mk.inj (Except.ok.inj h)
    exact Or.inl rfl
  | cons c cs =>
    have hc : (c = '/' ∨ c = '?') ∨ c = '#' := by
      simpa [Authority.isEnd] using hend c rfl
    rcases hc with (rfl | rfl) | rfl
    · exact Or.inr (pathAndQuery_slash h)
    · obtain ⟨query, -, h⟩ := Except.ok_of_map h
      obtain ⟨rfl, -⟩ := Prod.mk.inj h
      exact Or.inl rfl
    · obtain ⟨rfl, -⟩ := Prod.mk.inj (Except.ok.inj h)
      exact Or.inl rfl

/-- An empty path is made a slash, and one that begins with a slash is kept. -/
theorem isRooted_ofParts {scheme? authority? : Option String} {path : List Char}
    {query? : Option (List Char)} (h : path = [] ∨ path.head? = some '/') :
    IsRooted (ofParts scheme? authority? path query?).path := by
  rcases h with rfl | h
  · exact (rfl : "/".toList.head? = some '/')
  · have hne : ¬ path.isEmpty = true := by
      intro hempty
      rw [List.isEmpty_iff.mp hempty] at h
      cases h
    rw [IsRooted, ofParts, if_neg hne, String.toList_ofList]
    exact h

/-- A target that does not begin with a slash is a bare authority, or has a scheme and an authority. -/
theorem hasForm_of_parseFull {cs : List Char} {t : Target} (h : parseFull cs = .ok t) :
    t.HasForm .authority ∨ t.HasForm .absolute := by
  obtain ⟨scheme?, -, h⟩ := Except.ok_of_bind h
  cases scheme? with
  | none =>
    left
    obtain ⟨⟨authority, rest⟩, -, h⟩ := Except.ok_of_bind h
    by_cases hrest : rest.isEmpty = true
    · obtain rfl := Except.ok.inj ((if_pos hrest).symm.trans h)
      exact ⟨rfl, ⟨_, rfl⟩, rfl, rfl⟩
    · cases (if_neg hrest).symm.trans h
  | some split =>
    right
    obtain ⟨scheme, behind⟩ := split
    obtain ⟨⟨authority, rest⟩, hauthority, h⟩ := Except.ok_of_bind h
    by_cases hempty : authority.isEmpty = true
    · cases (if_pos hempty).symm.trans h
    · replace h := (if_neg hempty).symm.trans h
      obtain ⟨⟨path, query?⟩, hpath, h⟩ := Except.ok_of_bind h
      obtain rfl := Except.ok.inj h
      exact ⟨⟨_, rfl⟩, ⟨_, rfl⟩, isRooted_ofParts (pathAndQuery_behind (isEnd_of_scan hauthority) hpath)⟩

/-- **Every text that is read as a target is of one of the four forms.** -/
theorem exists_form_of_parse {s : String} {t : Target} (h : parse s = .ok t) : ∃ form, t.HasForm form := by
  rw [parse] at h
  by_cases hlong : maxLength < s.utf8ByteSize
  · rw [if_pos hlong] at h
    cases h
  · rw [if_neg hlong] at h
    split at h
    · cases h
    · obtain rfl := Except.ok.inj h
      exact ⟨.asterisk, rfl, rfl, rfl, rfl⟩
    · obtain ⟨⟨path, query?⟩, hpath, h⟩ := Except.ok_of_bind h
      obtain rfl := Except.ok.inj h
      exact ⟨.origin, rfl, rfl, isRooted_ofParts (Or.inr (pathAndQuery_slash hpath))⟩
    · rcases hasForm_of_parseFull h with hform | hform
      · exact ⟨_, hform⟩
      · exact ⟨_, hform⟩

/-- Behind an authority, a query without a path gets one. -/
example : (parse "http://api:80?x=1").toOption
    = some { scheme? := some "http", authority? := some "api:80", path := "/", query? := some "x=1" } := by
  decide

end Target
end Switchyard.Http
