import Mathlib.Data.List.Forall2
import Switchyard.Proofs.Route.Grammar

/-!
  What matching depends on.

  A template that binds nothing is compared as a whole, without being cut.  Going through its pieces comes to
  the same, for the pieces tell paths apart (`Pattern.pieces?_injective`).

  Templates may differ in the names of their parameters and in the spelling of the wildcard
  (`Template.Renamed`).  Their pieces are then alike (`Segment.Alike`), and nothing else decides what is matched.

  * `constant_agrees_with_pieces` — comparing as a whole against comparing piece by piece;
  * `values_of_renamed` — renamed templates match the same paths, with the same values.
-/

namespace Switchyard.Route

/-- The values that were bound, in template order. -/
def Params.values (ps : Params) : List String := ps.entries.map (·.2)

/-! ## Templates that are compared as a whole -/

namespace Pattern

/-- **Comparing a template as a whole is comparing it piece by piece.**  A template that is compared as a whole
    was cut into pieces that stand for themselves.  Whatever the path, with or without a slash in front, with
    slashes added or missing at the end, and with empty pieces: going through these pieces matches it if it is
    the template, and binds nothing, and otherwise does not match it. -/
theorem constant_agrees_with_pieces {template text : String} (h : compile template = .ok (constant text)) :
    text = template ∧ ∃ pieces, pieces? template = some pieces ∧
      Segment.readAll [] pieces = .ok (pieces.map .literal) ∧
      ∀ path,
        let whole := (constant text).matchPath? path
        let scan := (parameterized template (pieces.map .literal) []).matchPath? path
        (path = template ∧ whole = some {} ∧ scan = some {}) ∨
          (path ≠ template ∧ whole = none ∧ scan = none) := by
  obtain ⟨hpieces, segments, hread, -, hpattern⟩ := readAll_of_compile h
  rcases hpattern with ⟨hnil, hconstant⟩ | hparameterized
  · obtain rfl := Pattern.constant.inj hconstant
    have hsegments := Segment.readAll_eq_map hread
    have hliteral : segments = (Template.pieces text).map .literal := by
      rw [hsegments] at hnil
      rw [hsegments, map_ofPiece_of_names_nil hnil]
    rw [hliteral] at hread
    refine ⟨rfl, Template.pieces text, hpieces, hread, fun path => ?_⟩
    have hscan : (parameterized text ((Template.pieces text).map .literal) []).matchPath? path
        = (constant text).matchPath? path := (matchPath?_eq h hread path).symm
    show path = text ∧ _ ∧ (parameterized text _ []).matchPath? path = _ ∨
      path ≠ text ∧ _ ∧ (parameterized text _ []).matchPath? path = _
    rw [hscan, matchPath?]
    by_cases heq : text = path
    · rw [if_pos heq]
      exact Or.inl ⟨heq.symm, rfl, rfl⟩
    · rw [if_neg heq]
      exact Or.inr ⟨fun hpath => heq hpath.symm, rfl, rfl⟩
  · nomatch hparameterized

/-- Slashes count, at both ends, and so do empty pieces. -/
theorem constant_agrees_with_pieces_groups :
    ∃ pieces, pieces? "/groups/" = some pieces ∧
      ∀ path ∈ ["/groups", "/groups//", "groups/", "//groups/", ""],
        (constant "/groups/").matchPath? path = none ∧
          (parameterized "/groups/" (pieces.map .literal) []).matchPath? path = none := by
  have h : compile "/groups/" = .ok (constant "/groups/") := rfl
  obtain ⟨-, pieces, hpieces, -, hall⟩ := constant_agrees_with_pieces h
  refine ⟨pieces, hpieces, fun path hpath => ?_⟩
  rcases hall path with ⟨rfl, -⟩ | ⟨-, hwhole, hscan⟩
  · exact absurd hpath (by decide)
  · exact ⟨hwhole, hscan⟩

end Pattern

/-! ## Renaming -/

namespace Template

/-- Two pieces that may stand for each other: the same piece, parameters of any two names, or any two spellings
    of the wildcard. -/
inductive PieceRenamed : String → String → Prop where
  | same (piece : String) : PieceRenamed piece piece
  | param {piece piece' name name' : String} (h : IsParam piece name) (h' : IsParam piece' name') :
      PieceRenamed piece piece'
  | wildcard {piece piece' : String} (h : IsWildcard piece) (h' : IsWildcard piece') :
      PieceRenamed piece piece'

/-- The templates differ at most in the names of their parameters and in the spelling of the wildcard. -/
def Renamed (template template' : String) : Prop :=
  List.Forall₂ PieceRenamed (pieces template) (pieces template')

end Template

namespace Segment

/-- Two pieces that match alike. -/
inductive Alike : Segment → Segment → Prop where
  | literal (text : String) : Alike (literal text) (literal text)
  | param (name name' : String) : Alike (param name) (param name')
  | wildcard : Alike wildcard wildcard

theorem Alike.refl (s : Segment) : Alike s s := by
  cases s with
  | literal text => exact .literal text
  | param name => exact .param name name
  | wildcard => exact .wildcard

/-- Pieces that may stand for each other are read alike. -/
theorem alike_of_renamed {piece piece' : String} (h : Template.PieceRenamed piece piece') :
    Alike (ofPiece piece) (ofPiece piece') := by
  cases h with
  | same => exact .refl _
  | param h h' =>
    rw [Template.ofPiece_of_isParam h, Template.ofPiece_of_isParam h']
    exact .param _ _
  | wildcard h h' =>
    rw [ofPiece_of_isWildcard (Template.isWildcard_iff.mpr h),
      ofPiece_of_isWildcard (Template.isWildcard_iff.mpr h')]
    exact .wildcard

/-- The values that pieces bind when they match the pieces of a path. -/
def valuesOf (segments : List Segment) (parts : List String) : Option (List String) :=
  (matchAll segments parts).map fun entries => entries.map (·.2)

theorem valuesOf_literal (text part : String) (segments : List Segment) (parts : List String) :
    valuesOf (literal text :: segments) (part :: parts)
      = if part = text then valuesOf segments parts else none := by
  rw [valuesOf, matchAll, apply_ite (Option.map _)]
  rfl

theorem valuesOf_param (name part : String) (segments : List Segment) (parts : List String) :
    valuesOf (param name :: segments) (part :: parts)
      = if part.isEmpty then none else (valuesOf segments parts).map (part :: ·) := by
  rw [valuesOf, valuesOf, matchAll, apply_ite (Option.map _), Option.map_map, Option.map_map]
  rfl

/-- **Pieces that are alike bind the same values**, whatever names they bind them to. -/
theorem valuesOf_alike {segments segments' : List Segment} (h : List.Forall₂ Alike segments segments')
    (parts : List String) : valuesOf segments parts = valuesOf segments' parts := by
  induction h generalizing parts with
  | nil => rfl
  | @cons s s' rest rest' hs _ ih =>
    cases parts with
    | nil => rfl
    | cons part parts =>
      cases hs with
      | literal text => rw [valuesOf_literal, valuesOf_literal, ih]
      | param name name' => rw [valuesOf_param, valuesOf_param, ih]
      | wildcard => rfl

end Segment

namespace Template

/-- A compiled template binds the values that its pieces bind. -/
theorem values_of_compile {template : String} {pattern : Pattern}
    (h : Pattern.compile template = .ok pattern) (path : String) :
    (pattern.matchPath? path).map Params.values
      = (Pattern.pieces? path).bind (Segment.valuesOf ((pieces template).map Segment.ofPiece)) := by
  obtain ⟨-, segments, hread, -⟩ := Pattern.readAll_of_compile h
  rw [Pattern.matchPath?_eq h hread, Segment.readAll_eq_map hread, Option.map_bind]
  exact congrArg (Option.bind _) (funext fun parts => Option.map_map ..)

/-- **Renaming changes no match**: templates that differ only in the names of their parameters and in the
    spelling of the wildcard match the same paths, with the same values. -/
theorem values_of_renamed {template template' : String} {pattern pattern' : Pattern}
    (h : Pattern.compile template = .ok pattern) (h' : Pattern.compile template' = .ok pattern')
    (hrenamed : Renamed template template') (path : String) :
    (pattern.matchPath? path).map Params.values = (pattern'.matchPath? path).map Params.values := by
  have halike : List.Forall₂ Segment.Alike ((pieces template).map Segment.ofPiece)
      ((pieces template').map Segment.ofPiece) :=
    List.forall₂_map_left_iff.mpr <| List.forall₂_map_right_iff.mpr <|
      hrenamed.imp fun _ _ => Segment.alike_of_renamed
  rw [values_of_compile h, values_of_compile h', funext (Segment.valuesOf_alike halike)]

/-- Of two templates that differ only in names, one matches a path if the other does. -/
theorem isSome_of_renamed {template template' : String} {pattern pattern' : Pattern}
    (h : Pattern.compile template = .ok pattern) (h' : Pattern.compile template' = .ok pattern')
    (hrenamed : Renamed template template') (path : String) :
    (pattern.matchPath? path).isSome = (pattern'.matchPath? path).isSome := by
  have hvalues := congrArg Option.isSome (values_of_renamed h h' hrenamed path)
  rwa [Option.isSome_map, Option.isSome_map] at hvalues

end Template
end Switchyard.Route
