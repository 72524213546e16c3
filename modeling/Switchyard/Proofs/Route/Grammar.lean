import Switchyard.Proofs.Route.Template

/-!
  The grammar of templates, and what is wrong with a template that is refused.

  A template is a slash and, behind it, pieces between slashes (`Template.eq_pieces_iff`).  A piece is a
  wildcard, a parameter with a name, or a text.  The rules are stated for these alone: what a well-formed
  template is (`Template.WellFormed`), and what a piece has against it, given the pieces before and after it
  (`Template.Offends`).

  The main statement is `compile_iff_wellFormed`: exactly the well-formed templates compile, and the refusal
  of any other names its first fault (`Template.FirstFault`).  It is put together from

  * `readAll_of_offends`, `readAll_of_sound` — one step of reading: a piece that offends ends it, and a
    piece that does not is read as what it is;
  * `readAll_append_of_sound` — reading up to any place, if no piece before it offends;
  * `wellFormed_iff` — a template is well-formed if it begins with a slash and no piece offends.

  What is carried along the pieces are the names that were seen (`Template.Seen`).
-/

namespace Switchyard

namespace Text

/-- Cutting what was glued gives the pieces back, if no piece holds a slash. -/
theorem slashPieces_slashJoin {ps : List String} (hne : ps ≠ []) (h : ∀ p ∈ ps, '/' ∉ p.toList) :
    slashPieces (slashJoin ps) = ps := by
  have hne' : ps.map String.toList ≠ [] := fun hnil => hne (List.map_eq_nil_iff.mp hnil)
  have hnone : ∀ cs ∈ ps.map String.toList, '/' ∉ cs := List.forall_mem_map.mpr h
  rw [slashPieces, slashJoin, String.toList_ofList, splitOn_join hne' hnone, List.map_map]
  exact (List.map_congr_left fun p _ => String.ofList_toList).trans (List.map_id ps)

end Text

namespace Route

namespace Template

/-! ## The rules -/

/-- The piece is one of the two spellings of the wildcard. -/
def IsWildcard (piece : String) : Prop := piece = "*" ∨ piece = ":*"

/-- The piece is a parameter of this name: the name behind a colon, and not the wildcard. -/
def IsParam (piece name : String) : Prop := piece = ":" ++ name ∧ name ≠ wildcardName

/-- The piece stands for itself. -/
def IsText (piece : String) : Prop := ¬ IsWildcard piece ∧ ∀ name, ¬ IsParam piece name

/-- What a piece has against it, with the pieces before it and those after it. -/
inductive Offends (before after : List String) (piece : String) : TemplateFault → Prop where
  /-- It is a wildcard, and not the last piece. -/
  | wildcardNotLast (h : IsWildcard piece) (hafter : after ≠ []) :
      Offends before after piece .wildcardNotLast
  /-- It is a parameter without a name. -/
  | emptyName (h : IsParam piece "") : Offends before after piece .emptyName
  /-- It is a parameter with the name of an earlier one. -/
  | repeatedName {name earlier : String} (h : IsParam piece name) (hname : name ≠ "")
      (hearlier : earlier ∈ before) (hsame : IsParam earlier name) :
      Offends before after piece .repeatedName

/-- A piece has nothing against it. -/
def Sound (before after : List String) (piece : String) : Prop :=
  ∀ reason, ¬ Offends before after piece reason

/-- **The grammar of templates.**  A template begins with a slash; of its pieces only the last is a
    wildcard, and the parameters have names, which are all different. -/
structure WellFormed (template : String) : Prop where
  slash : template.toList.head? = some '/'
  wildcard_last : ∀ before piece after, pieces template = before ++ piece :: after →
    IsWildcard piece → after = []
  named : ∀ piece ∈ pieces template, ∀ name, IsParam piece name → name ≠ ""
  differ : (pieces template).Pairwise fun earlier piece =>
    ∀ name, IsParam earlier name → ¬ IsParam piece name

/-- The first fault of a template: that it does not begin with a slash, or else what its leftmost piece
    that offends has against it. -/
inductive FirstFault (template : String) : TemplateFault → Prop where
  | noLeadingSlash (h : template.toList.head? ≠ some '/') : FirstFault template .noLeadingSlash
  | piece {before after : List String} {piece : String} {reason : TemplateFault}
      (hslash : template.toList.head? = some '/') (hpieces : pieces template = before ++ piece :: after)
      (h : Offends before after piece reason)
      (hbefore : ∀ b p a, before = b ++ p :: a → Sound b (a ++ piece :: after) p) :
      FirstFault template reason

/-! ## The pieces of a template -/

theorem toList_param (name : String) : (":" ++ name).toList = ':' :: name.toList := by
  simp

theorem toList_slash (rest : String) : ("/" ++ rest).toList = '/' :: rest.toList := by
  simp

/-- A text that begins with a slash, as the slash and the rest. -/
theorem eq_slash_of_head? {template : String} (h : template.toList.head? = some '/') :
    template = "/" ++ String.ofList template.toList.tail := by
  obtain ⟨rest, hrest⟩ := List.head?_eq_some_iff.mp h
  apply String.toList_injective
  rw [toList_slash, String.toList_ofList, hrest, List.tail_cons]

theorem pieces_slash (rest : String) : pieces ("/" ++ rest) = Text.slashPieces rest := by
  rw [pieces, toList_slash, List.tail_cons, String.ofList_toList]

theorem pieces?_of_slash {template : String} (h : template.toList.head? = some '/') :
    Pattern.pieces? template = some (pieces template) := by
  rw [eq_slash_of_head? h, Pattern.pieces?_slash, pieces_slash]

theorem pieces?_of_no_slash {template : String} (h : template.toList.head? ≠ some '/') :
    Pattern.pieces? template = none := by
  rw [Pattern.pieces?]
  split
  · rename_i rest htemplate
    rw [htemplate] at h
    exact absurd rfl h
  · rfl

/-- **The pieces are what stands between the slashes**: the only texts without slashes that give the
    template behind a slash and with slashes between them. -/
theorem eq_pieces_iff {template : String} {ps : List String} :
    (template.toList.head? = some '/' ∧ ps = pieces template) ↔
      ps ≠ [] ∧ (∀ p ∈ ps, '/' ∉ p.toList) ∧ template = "/" ++ Text.slashJoin ps := by
  constructor
  · rintro ⟨hslash, rfl⟩
    obtain ⟨htemplate, hnone⟩ := Pattern.eq_slash_of_pieces? (pieces?_of_slash hslash)
    exact ⟨Text.slashPieces_ne_nil _, hnone, htemplate⟩
  · rintro ⟨hne, hnone, rfl⟩
    refine ⟨?_, ?_⟩
    · rw [toList_slash]
      rfl
    · rw [pieces_slash, Text.slashPieces_slashJoin hne hnone]

theorem isWildcard_iff {piece : String} : Segment.isWildcard piece = true ↔ IsWildcard piece := by
  simp [Segment.isWildcard, IsWildcard]

theorem IsParam.unique {piece name name' : String} (h : IsParam piece name) (h' : IsParam piece name') :
    name = name' := by
  obtain ⟨rfl, -⟩ := h
  have htail := congrArg String.toList h'.1
  rw [toList_param, toList_param] at htail
  exact String.toList_injective (List.cons.inj htail).2

/-- A parameter is no wildcard. -/
theorem IsParam.not_isWildcard {piece name : String} (h : IsParam piece name) : ¬ IsWildcard piece := by
  obtain ⟨rfl, hname⟩ := h
  rintro (hstar | hcolon)
  · have hlist := congrArg String.toList hstar
    rw [toList_param] at hlist
    nomatch (List.cons.inj hlist).1
  · have hlist := congrArg String.toList hcolon
    rw [toList_param] at hlist
    exact hname (String.toList_injective (List.cons.inj hlist).2)

/-- A piece that begins with a colon is a parameter, unless it is a wildcard. -/
theorem isParam_of_colon {piece : String} (hw : ¬ IsWildcard piece) {cs : List Char}
    (h : piece.toList = ':' :: cs) : IsParam piece (String.ofList cs) := by
  have hpiece : piece = ":" ++ String.ofList cs := by
    apply String.toList_injective
    rw [h, toList_param, String.toList_ofList]
  refine ⟨hpiece, fun hname => hw (Or.inr ?_)⟩
  rw [hpiece, hname]
  rfl

/-- **Every piece is a wildcard, a parameter or a text.** -/
theorem piece_cases (piece : String) :
    IsWildcard piece ∨ (∃ name, IsParam piece name) ∨ IsText piece := by
  by_cases hw : IsWildcard piece
  · exact Or.inl hw
  · by_cases hparam : ∃ name, IsParam piece name
    · exact Or.inr (Or.inl hparam)
    · exact Or.inr (Or.inr ⟨hw, fun name h => hparam ⟨name, h⟩⟩)

/-- A parameter is read as a parameter of its name. -/
theorem ofPiece_of_isParam {piece name : String} (h : IsParam piece name) :
    Segment.ofPiece piece = .param name := by
  have hread : Segment.ofPiece piece = .param (String.ofList name.toList) :=
    Segment.ofPiece_of_colon (fun hw => h.not_isWildcard (isWildcard_iff.mp hw)) (h.1 ▸ toList_param name)
  rwa [String.ofList_toList] at hread

theorem IsText.ne_colon {piece : String} (h : IsText piece) (cs : List Char) : piece.toList ≠ ':' :: cs :=
  fun hcolon => h.2 _ (isParam_of_colon h.1 hcolon)

/-- The name of a gap: that of the wildcard, or that of the parameter. -/
theorem gap?_eq_some_iff {piece name : String} :
    gap? piece = some name ↔ (IsWildcard piece ∧ name = wildcardName) ∨ IsParam piece name := by
  rcases piece_cases piece with hw | ⟨name', hparam⟩ | htext
  · rw [gap?, if_pos (show piece = "*" ∨ piece = ":*" from hw), Option.some.injEq]
    exact ⟨fun h => Or.inl ⟨hw, h.symm⟩, fun h => h.elim (fun h => h.2.symm)
      fun h => absurd hw h.not_isWildcard⟩
  · have hgap : gap? piece = some name' := by
      have hnot : ¬ (piece = "*" ∨ piece = ":*") := hparam.not_isWildcard
      rw [gap?, if_neg hnot, hparam.1, toList_param]
      exact congrArg some String.ofList_toList
    rw [hgap, Option.some.injEq]
    constructor
    · rintro rfl
      exact Or.inr hparam
    · rintro (⟨hw, -⟩ | h)
      · exact absurd hw hparam.not_isWildcard
      · exact hparam.unique h
  · have hgap : gap? piece = none := by
      have hnot : ¬ (piece = "*" ∨ piece = ":*") := htext.1
      rw [gap?, if_neg hnot]
      split
      · rename_i cs hcs
        exact absurd hcs (htext.ne_colon cs)
      · rfl
    rw [hgap]
    constructor
    · intro h
      cases h
    · rintro (⟨hw, -⟩ | h)
      · exact absurd hw htext.1
      · exact absurd h (htext.2 name)

theorem gap?_eq_none_iff {piece : String} : gap? piece = none ↔ IsText piece := by
  constructor
  · intro hgap
    refine ⟨fun hw => ?_, fun name hparam => ?_⟩
    · rw [gap?_eq_some_iff.mpr (Or.inl ⟨hw, rfl⟩)] at hgap
      nomatch hgap
    · rw [gap?_eq_some_iff.mpr (Or.inr hparam)] at hgap
      nomatch hgap
  · intro htext
    cases hgap : gap? piece with
    | none => rfl
    | some name =>
      rcases gap?_eq_some_iff.mp hgap with ⟨hw, -⟩ | hparam
      · exact absurd hw htext.1
      · exact absurd hparam (htext.2 name)

/-! ## Reading, piece by piece -/

theorem readAll_isWildcard {seen after : List String} {piece : String} (h : IsWildcard piece) :
    Segment.readAll seen (piece :: after)
      = if after.isEmpty then .ok [.wildcard] else .error .wildcardNotLast := by
  rw [Segment.readAll, if_pos (isWildcard_iff.mpr h)]

theorem readAll_isParam {seen after : List String} {piece name : String} (h : IsParam piece name) :
    Segment.readAll seen (piece :: after)
      = if name.isEmpty then .error .emptyName
        else if name ∈ seen then .error .repeatedName
        else (Segment.readAll (name :: seen) after).map (.param name :: ·) := by
  have hnot : ¬ Segment.isWildcard piece = true := fun hw => h.not_isWildcard (isWildcard_iff.mp hw)
  rw [Segment.readAll, if_neg hnot, h.1, toList_param]
  show (if (String.ofList name.toList).isEmpty then _ else _) = _
  rw [String.ofList_toList]

theorem readAll_isText {seen after : List String} {piece : String} (h : IsText piece) :
    Segment.readAll seen (piece :: after) = (Segment.readAll seen after).map (.literal piece :: ·) := by
  have hnot : ¬ Segment.isWildcard piece = true := fun hw => h.1 (isWildcard_iff.mp hw)
  rw [Segment.readAll, if_neg hnot]
  split
  · rename_i cs hcs
    exact absurd hcs (h.ne_colon cs)
  · rfl

/-- The names that were seen are those of the parameters before. -/
def Seen (seen before : List String) : Prop :=
  ∀ name, name ∈ seen ↔ name ≠ "" ∧ ∃ earlier ∈ before, IsParam earlier name

theorem seen_nil : Seen [] [] := fun _ =>
  ⟨fun h => absurd h List.not_mem_nil, fun ⟨_, _, h, _⟩ => absurd h List.not_mem_nil⟩

/-- A piece that is no parameter brings no name. -/
theorem Seen.append_other {seen before : List String} (h : Seen seen before) {piece : String}
    (hpiece : ∀ name, ¬ IsParam piece name) : Seen seen (before ++ [piece]) := by
  intro name
  rw [h name]
  refine and_congr_right fun _ => ⟨?_, ?_⟩
  · rintro ⟨earlier, hin, hparam⟩
    exact ⟨earlier, List.mem_append_left _ hin, hparam⟩
  · rintro ⟨earlier, hin, hparam⟩
    rcases List.mem_append.mp hin with hin | hin
    · exact ⟨earlier, hin, hparam⟩
    · obtain rfl := List.mem_singleton.mp hin
      exact absurd hparam (hpiece name)

/-- A parameter brings its name. -/
theorem Seen.append_param {seen before : List String} (h : Seen seen before) {piece name : String}
    (hpiece : IsParam piece name) (hname : name ≠ "") : Seen (name :: seen) (before ++ [piece]) := by
  intro other
  rw [List.mem_cons, h other]
  constructor
  · rintro (rfl | ⟨hne, earlier, hin, hparam⟩)
    · exact ⟨hname, piece, List.mem_append_right _ List.mem_cons_self, hpiece⟩
    · exact ⟨hne, earlier, List.mem_append_left _ hin, hparam⟩
  · rintro ⟨hne, earlier, hin, hparam⟩
    rcases List.mem_append.mp hin with hin | hin
    · exact Or.inr ⟨hne, earlier, hin, hparam⟩
    · obtain rfl := List.mem_singleton.mp hin
      exact Or.inl (hparam.unique hpiece)

section Reading

variable {seen before after : List String} {piece : String}

/-- **A piece that offends ends the reading**, with what it has against it. -/
theorem readAll_of_offends (hseen : Seen seen before) {reason : TemplateFault}
    (h : Offends before after piece reason) : Segment.readAll seen (piece :: after) = .error reason := by
  cases h with
  | wildcardNotLast h hafter =>
    rw [readAll_isWildcard h, if_neg (by simpa using hafter)]
  | emptyName h =>
    rw [readAll_isParam h, if_pos (by simp)]
  | @repeatedName name earlier h hname hearlier hsame =>
    have hmem : name ∈ seen := (hseen name).mpr ⟨hname, earlier, hearlier, hsame⟩
    rw [readAll_isParam h, if_neg (by simpa using hname), if_pos hmem]

/-- **A piece that does not offend is read as what it is**, and reading goes on behind it. -/
theorem readAll_of_sound (hseen : Seen seen before) (h : Sound before after piece) :
    ∃ seen', Seen seen' (before ++ [piece]) ∧
      Segment.readAll seen (piece :: after)
        = (Segment.readAll seen' after).map (Segment.ofPiece piece :: ·) := by
  rcases piece_cases piece with hw | ⟨name, hparam⟩ | htext
  · -- a wildcard that does not offend is the last piece
    have hlast : after = [] := Classical.byContradiction fun hafter => h _ (.wildcardNotLast hw hafter)
    subst hlast
    refine ⟨seen, hseen.append_other fun name hparam => hparam.not_isWildcard hw, ?_⟩
    rw [readAll_isWildcard hw, Segment.ofPiece_of_isWildcard (isWildcard_iff.mpr hw)]
    rfl
  · have hname : name ≠ "" := fun hempty => h _ (.emptyName (hempty ▸ hparam))
    have hnew : name ∉ seen := fun hin => by
      obtain ⟨-, earlier, hearlier, hsame⟩ := (hseen name).mp hin
      exact h _ (.repeatedName hparam hname hearlier hsame)
    refine ⟨name :: seen, hseen.append_param hparam hname, ?_⟩
    rw [readAll_isParam hparam, if_neg (by simpa using hname), if_neg hnew, ofPiece_of_isParam hparam]
  · have hpiece : Segment.ofPiece piece = .literal piece :=
      Segment.ofPiece_of_ne_colon (fun hw => htext.1 (isWildcard_iff.mp hw)) htext.ne_colon
    refine ⟨seen, hseen.append_other htext.2, ?_⟩
    rw [readAll_isText htext, hpiece]

/-- Reading up to a place that no piece before offends. -/
theorem readAll_append_of_sound {prior ps : List String} (rest : List String) (hseen : Seen seen prior)
    (h : ∀ b p a, ps = b ++ p :: a → Sound (prior ++ b) (a ++ rest) p) :
    ∃ seen', Seen seen' (prior ++ ps) ∧
      Segment.readAll seen (ps ++ rest)
        = (Segment.readAll seen' rest).map (ps.map Segment.ofPiece ++ ·) := by
  induction ps generalizing seen prior with
  | nil =>
    refine ⟨seen, (List.append_nil prior).symm ▸ hseen, ?_⟩
    show Segment.readAll seen rest = (Segment.readAll seen rest).map id
    cases Segment.readAll seen rest <;> rfl
  | cons p ps ih =>
    have hfirst : Sound prior (ps ++ rest) p := (List.append_nil prior) ▸ h [] p ps rfl
    obtain ⟨seen₁, hseen₁, hread₁⟩ := readAll_of_sound hseen hfirst
    have hlater : ∀ b q a, ps = b ++ q :: a → Sound (prior ++ [p] ++ b) (a ++ rest) q := by
      rintro b q a rfl
      rw [List.append_assoc]
      exact h (p :: b) q a rfl
    obtain ⟨seen₂, hseen₂, hread₂⟩ := ih hseen₁ hlater
    refine ⟨seen₂, (List.append_assoc prior [p] ps) ▸ hseen₂, ?_⟩
    rw [List.cons_append, hread₁, hread₂]
    cases Segment.readAll seen₂ rest <;> rfl

end Reading

/-- Either a property holds at every place of a list, or there is a first place at which it fails. -/
theorem forall_or_exists_first {α : Type} (P : List α → α → List α → Prop) (l : List α) :
    (∀ b x a, l = b ++ x :: a → P b x a) ∨
      ∃ before x after, l = before ++ x :: after ∧ ¬ P before x after ∧
        ∀ b y a, before = b ++ y :: a → P b y (a ++ x :: after) := by
  induction l generalizing P with
  | nil => exact Or.inl fun b x a h => absurd h (by simp)
  | cons y l ih =>
    by_cases hy : P [] y l
    · rcases ih (fun b x a => P (y :: b) x a) with hall | ⟨before, x, after, rfl, hfails, hbefore⟩
      · refine Or.inl fun b x a hsplit => ?_
        rcases List.cons_eq_append_iff.mp hsplit with ⟨rfl, hhead⟩ | ⟨b', rfl, htail⟩
        · obtain ⟨rfl, rfl⟩ := List.cons.inj hhead
          exact hy
        · exact hall b' x a htail
      · refine Or.inr ⟨y :: before, x, after, rfl, hfails, fun b z a hsplit => ?_⟩
        rcases List.cons_eq_append_iff.mp hsplit with ⟨rfl, hhead⟩ | ⟨b', rfl, htail⟩
        · obtain ⟨rfl, rfl⟩ := List.cons.inj hhead
          exact hy
        · exact hbefore b' z a htail
    · exact Or.inr ⟨[], y, l, rfl, hy, fun b x a h => absurd h (by simp)⟩

/-! ## Well-formed templates -/

/-- No piece of a template offends. -/
def AllSound (template : String) : Prop :=
  ∀ before piece after, pieces template = before ++ piece :: after → Sound before after piece

/-- A template is well-formed if it begins with a slash and none of its pieces offends. -/
theorem wellFormed_iff {template : String} :
    WellFormed template ↔ template.toList.head? = some '/' ∧ AllSound template := by
  constructor
  · rintro ⟨hslash, hlast, hnamed, hdiffer⟩
    refine ⟨hslash, fun before piece after hpieces reason hoffends => ?_⟩
    have hmem : piece ∈ pieces template := hpieces ▸ List.mem_append_right _ List.mem_cons_self
    cases hoffends with
    | wildcardNotLast h hafter => exact hafter (hlast before piece after hpieces h)
    | emptyName h => exact hnamed piece hmem "" h rfl
    | @repeatedName name earlier h hname hearlier hsame =>
      rw [hpieces, List.pairwise_append] at hdiffer
      exact hdiffer.2.2 earlier hearlier piece List.mem_cons_self name hsame h
  · rintro ⟨hslash, hsound⟩
    have hnamed : ∀ piece ∈ pieces template, ∀ name, IsParam piece name → name ≠ "" := by
      rintro piece hmem name h rfl
      obtain ⟨before, after, hpieces⟩ := List.append_of_mem hmem
      exact hsound before piece after hpieces _ (.emptyName h)
    refine ⟨hslash, fun before piece after hpieces h => ?_, hnamed, ?_⟩
    · exact Classical.byContradiction fun hafter =>
        hsound before piece after hpieces _ (.wildcardNotLast h hafter)
    · refine List.pairwise_iff_getElem.mpr fun i j hi hj hij name hearlier h => ?_
      have hsplit : pieces template
          = (pieces template).take j ++ (pieces template)[j] :: (pieces template).drop (j + 1) := by
        rw [List.getElem_cons_drop, List.take_append_drop]
      have hbefore : (pieces template)[i] ∈ (pieces template).take j :=
        List.mem_take_iff_getElem.mpr ⟨i, by omega, rfl⟩
      exact hsound _ _ _ hsplit _
        (.repeatedName h (hnamed _ (List.getElem_mem hj) name h) hbefore hearlier)

/-- A template is well-formed, or it has a first fault. -/
theorem wellFormed_or_firstFault (template : String) :
    WellFormed template ∨ ∃ reason, FirstFault template reason := by
  by_cases hslash : template.toList.head? = some '/'
  · rcases forall_or_exists_first (fun b p a => Sound b a p) (pieces template) with
      hsound | ⟨before, piece, after, hpieces, hfails, hbefore⟩
    · exact Or.inl (wellFormed_iff.mpr ⟨hslash, hsound⟩)
    · obtain ⟨reason, hoffends⟩ := Classical.not_forall_not.mp hfails
      exact Or.inr ⟨reason, .piece hslash hpieces hoffends hbefore⟩
  · exact Or.inr ⟨_, .noLeadingSlash hslash⟩

/-! ## Compiling -/

/-- A well-formed template compiles. -/
theorem compile_of_wellFormed {template : String} (h : WellFormed template) :
    ∃ pattern, Pattern.compile template = .ok pattern := by
  obtain ⟨hslash, hsound⟩ := wellFormed_iff.mp h
  have hall : ∀ b p a, pieces template = b ++ p :: a → Sound ([] ++ b) (a ++ []) p := by
    intro b p a hpieces
    rw [List.append_nil]
    exact hsound b p a hpieces
  obtain ⟨seen, -, hread⟩ := readAll_append_of_sound [] seen_nil hall
  rw [List.append_nil] at hread
  have hok : Segment.readAll [] (pieces template) = .ok ((pieces template).map Segment.ofPiece) := by
    rw [hread, Segment.readAll, Except.map, List.append_nil]
  simp only [Pattern.compile, pieces?_of_slash hslash, hok]
  split
  · exact ⟨_, rfl⟩
  · exact ⟨_, rfl⟩

/-- A template is refused for its first fault. -/
theorem compile_of_firstFault {template : String} {reason : TemplateFault}
    (h : FirstFault template reason) :
    Pattern.compile template = .error (.invalidTemplate template reason) := by
  cases h with
  | noLeadingSlash hslash => rw [Pattern.compile, pieces?_of_no_slash hslash]
  | @piece before after piece reason hslash hpieces hoffends hbefore =>
    obtain ⟨seen, hseen, hread⟩ := readAll_append_of_sound (piece :: after) seen_nil hbefore
    have herror : Segment.readAll [] (pieces template) = .error reason := by
      rw [hpieces, hread, readAll_of_offends hseen hoffends]
      rfl
    simp only [Pattern.compile, pieces?_of_slash hslash, herror]

/-- A template is compared as a whole if it binds no name. -/
theorem isConstant_iff_names {template : String} {pattern : Pattern}
    (h : Pattern.compile template = .ok pattern) : pattern.isConstant = true ↔ pattern.names = [] := by
  obtain ⟨hpieces, segments, hread, -, -⟩ := Pattern.readAll_of_compile h
  simp only [Pattern.compile, hpieces, hread] at h
  split at h
  · obtain rfl := Except.ok.inj h
    exact ⟨fun _ => rfl, fun _ => rfl⟩
  · rename_i hbinds
    obtain rfl := Except.ok.inj h
    exact ⟨fun hconstant => Bool.noConfusion hconstant, fun hnil => absurd hnil hbinds⟩

/-- A template binds no name if each of its pieces stands for itself. -/
theorem names_eq_nil_iff {template : String} :
    names template = [] ↔ ∀ piece ∈ pieces template, IsText piece := by
  rw [names, List.filterMap_eq_nil_iff]
  exact forall₂_congr fun piece _ => gap?_eq_none_iff

/-- What a template compiles to carries the template. -/
theorem template_of_compile {template : String} {pattern : Pattern}
    (h : Pattern.compile template = .ok pattern) : pattern.template = template := by
  obtain ⟨-, segments, -, -, ⟨-, rfl⟩ | rfl⟩ := Pattern.readAll_of_compile h
  · rfl
  · rfl

/-- The segments of a pattern are its template, read piece by piece. -/
theorem segments_of_compile {template template' : String} {segments : List Segment} {ns : List String}
    (h : Pattern.compile template = .ok (.parameterized template' segments ns)) :
    segments = (pieces template).map Segment.ofPiece := by
  obtain ⟨-, segments', hread, -, ⟨-, hpattern⟩ | hpattern⟩ := Pattern.readAll_of_compile h
  · nomatch hpattern
  · rw [(Pattern.parameterized.inj hpattern).2.1]
    exact Segment.readAll_eq_map hread

/-- **Exactly the well-formed templates compile.**

    * A template that begins with a slash has as its pieces what stands between its slashes.
    * It compiles if and only if it is well-formed.
    * What it compiles to carries it, is constant if every piece stands for itself, and binds the names
      of the gaps in their order (`gap?_eq_some_iff`).  These are all different, and no parameter has the
      name of the wildcard.
    * It is refused if and only if it has a first fault, and the refusal is that: the template, and what
      is wrong with it. -/
theorem compile_iff_wellFormed (template : String) :
    (∀ ps, (template.toList.head? = some '/' ∧ ps = pieces template) ↔
      ps ≠ [] ∧ (∀ p ∈ ps, '/' ∉ p.toList) ∧ template = "/" ++ Text.slashJoin ps) ∧
    ((∃ pattern, Pattern.compile template = .ok pattern) ↔ WellFormed template) ∧
    (∀ pattern, Pattern.compile template = .ok pattern →
      pattern.template = template ∧
      (pattern.isConstant = true ↔ ∀ piece ∈ pieces template, IsText piece) ∧
      pattern.names = names template ∧ pattern.names.Nodup ∧
      ∀ segments, pattern = .parameterized template segments pattern.names →
        ∀ name, Segment.param name ∈ segments → name ≠ wildcardName) ∧
    ∀ refusal, Pattern.compile template = .error refusal ↔
      ∃ reason, refusal = .invalidTemplate template reason ∧ FirstFault template reason := by
  have hrefused : ∀ reason, FirstFault template reason →
      ∀ pattern, Pattern.compile template ≠ .ok pattern := by
    intro reason hfault pattern hok
    rw [compile_of_firstFault hfault] at hok
    nomatch hok
  refine ⟨fun ps => eq_pieces_iff, ⟨?_, compile_of_wellFormed⟩, ?_, fun refusal => ⟨?_, ?_⟩⟩
  · rintro ⟨pattern, hok⟩
    rcases wellFormed_or_firstFault template with hwell | ⟨reason, hfault⟩
    · exact hwell
    · exact absurd hok (hrefused reason hfault pattern)
  · intro pattern hok
    have hnames := names_of_compile hok
    refine ⟨template_of_compile hok, ?_, hnames, hnames ▸ nodup_names_of_compile hok, ?_⟩
    · rw [isConstant_iff_names hok, hnames, names_eq_nil_iff]
    · rintro segments hpattern name hparam
      rw [hpattern] at hok
      rw [segments_of_compile hok] at hparam
      obtain ⟨piece, -, hpiece⟩ := List.mem_map.mp hparam
      exact Segment.ne_wildcardName_of_ofPiece hpiece
  · intro herror
    rcases wellFormed_or_firstFault template with hwell | ⟨reason, hfault⟩
    · obtain ⟨pattern, hok⟩ := compile_of_wellFormed hwell
      rw [herror] at hok
      nomatch hok
    · refine ⟨reason, ?_, hfault⟩
      rw [compile_of_firstFault hfault] at herror
      exact (Except.error.inj herror).symm
  · rintro ⟨reason, rfl, hfault⟩
    exact compile_of_firstFault hfault

/-- Of the two things wrong with this template, the one on the left is named. -/
example : Pattern.compile "/:/*/x" = .error (.invalidTemplate "/:/*/x" .emptyName) := rfl

end Template

end Route
end Switchyard
