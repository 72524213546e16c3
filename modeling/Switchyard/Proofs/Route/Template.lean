import Switchyard.Route.Pattern

/-!
  Templates read as texts with gaps, and the matcher against that reading.

  A piece of a template that begins with a colon, or is an asterisk, is a gap with a name.  Filling the
  gaps with values gives a path (`Template.fill`); a gap of one piece takes values that are not empty
  and hold no slash, the gap at the end takes any value (`Template.Admits`).  This reading knows nothing
  of patterns.

  The main statement is `compile_matches_iff_fills`: a compiled template matches exactly the paths that
  filling it gives, and what it binds are the values that fill it, of which there is one choice for
  every path.  It is put together from

  * `readAll_eq_map`, `readAll_wildcardLast`, `readAll_names` — what a template is read as, piece by
    piece;
  * `matchAll_fill` — a filled template is matched, with the values it was filled with;
  * `names_of_matchAll`, `fill_of_matchAll` — what is matched is a filled template.

  The two directions are inductions along the pieces.  A value of the gap at the end may hold slashes,
  so the pieces of the path are not the filled pieces: the last of them is cut again (`Text.recut`).
-/

namespace Switchyard

namespace Text

/-! ## Cutting a text whose first piece is known -/

/-- There is always a piece, if an empty one. -/
theorem slashPieces_ne_nil (s : String) : slashPieces s ≠ [] := by
  intro h
  exact splitOn_ne_nil '/' s.toList (List.map_eq_nil_iff.mp h)

/-- No piece has a slash in it. -/
theorem notMem_of_mem_slashPieces {s piece : String} (h : piece ∈ slashPieces s) :
    '/' ∉ piece.toList := by
  obtain ⟨cs, hcs, rfl⟩ := List.mem_map.mp h
  rw [String.toList_ofList]
  exact notMem_of_mem_splitOn hcs

theorem slashJoin_singleton (s : String) : slashJoin [s] = s := by
  simp [slashJoin, join]

theorem slashJoin_cons {ps : List String} (p : String) (hne : ps ≠ []) :
    slashJoin (p :: ps) = p ++ ("/" ++ slashJoin ps) := by
  cases ps with
  | nil => exact absurd rfl hne
  | cons q qs =>
    apply String.toList_injective
    simp [slashJoin, join]

/-- Without a slash, a text is its only piece. -/
theorem slashPieces_of_notMem {s : String} (h : '/' ∉ s.toList) : slashPieces s = [s] := by
  simp [slashPieces, splitOn_of_notMem h]

/-- The pieces that a path has once these are glued: the last of them may be cut further. -/
def recut (ps : List String) : List String := if ps = [] then [] else slashPieces (slashJoin ps)

@[simp] theorem recut_nil : recut [] = [] := rfl

theorem recut_singleton (p : String) : recut [p] = slashPieces p := by
  simp [recut, slashJoin_singleton]

/-- A piece without a slash in front of others stays a piece; what follows is cut as it would be
    alone. -/
theorem recut_cons {p : String} (hp : '/' ∉ p.toList) (ps : List String) :
    recut (p :: ps) = p :: recut ps := by
  cases ps with
  | nil => rw [recut_singleton, slashPieces_of_notMem hp, recut_nil]
  | cons q qs =>
    have hjoin : (slashJoin (p :: q :: qs)).toList
        = p.toList ++ '/' :: (slashJoin (q :: qs)).toList := by
      simp [slashJoin, join]
    show slashPieces (slashJoin (p :: q :: qs)) = p :: slashPieces (slashJoin (q :: qs))
    rw [slashPieces, hjoin, splitOn_append_cons hp]
    simp [slashPieces]

/-- Gluing depends only on what the pieces but the first glue to. -/
theorem slashJoin_cons_congr {ps qs : List String} (p : String) (hnil : ps = [] ↔ qs = [])
    (h : slashJoin ps = slashJoin qs) : slashJoin (p :: ps) = slashJoin (p :: qs) := by
  by_cases hps : ps = []
  · rw [hps, hnil.mp hps]
  · rw [slashJoin_cons p hps, slashJoin_cons p (fun hqs => hps (hnil.mpr hqs)), h]

end Text

namespace Route

/-! ## The reading of a template as a text with gaps -/

namespace Template

/-- The pieces of a template behind its leading slash. -/
def pieces (template : String) : List String :=
  Text.slashPieces (String.ofList template.toList.tail)

/-- The name of the gap that a piece stands for, if it is one. -/
def gap? (piece : String) : Option String :=
  if piece = "*" ∨ piece = ":*" then some wildcardName
  else match piece.toList with
    | ':' :: name => some (String.ofList name)
    | _ => none

/-- The names of the gaps, in order. -/
def names (template : String) : List String := (pieces template).filterMap gap?

/-- A piece with the value of its name in its place, if it is a gap. -/
def fillPiece (value : String → String) (piece : String) : String :=
  match gap? piece with
  | some name => value name
  | none => piece

/-- The path that a template gives when every gap is filled with the value of its name. -/
def fill (value : String → String) (template : String) : String :=
  "/" ++ Text.slashJoin ((pieces template).map (fillPiece value))

/-- Gaps of one piece take values that are not empty and hold no slash; the gap at the end takes any
    value. -/
def Admits (template : String) (value : String → String) : Prop :=
  ∀ name ∈ names template, name ≠ wildcardName → value name ≠ "" ∧ '/' ∉ (value name).toList

/-- The path is the template with its gaps filled by values that they take. -/
def Fills (template path : String) (value : String → String) : Prop :=
  Admits template value ∧ fill value template = path

end Template

/-! ## What a template is read as, piece by piece -/

namespace Segment

/-- What a piece of a template is read as. -/
def ofPiece (piece : String) : Segment :=
  if isWildcard piece then wildcard
  else match piece.toList with
    | ':' :: name => param (String.ofList name)
    | _ => literal piece

/-- A piece that was read, with a value in place of a gap. -/
def fill (value : String → String) : Segment → String
  | literal text => text
  | param name => value name
  | wildcard => value wildcardName

/-- Nothing follows a wildcard. -/
def WildcardLast : List Segment → Prop
  | [] => True
  | wildcard :: rest => rest = []
  | _ :: rest => WildcardLast rest

/-- Nothing comes after a wildcard that has to come last. -/
theorem eq_nil_of_wildcardLast {before after : List Segment}
    (h : WildcardLast (before ++ wildcard :: after)) : after = [] := by
  induction before with
  | nil => exact h
  | cons segment rest ih =>
    cases segment with
    | literal text => exact ih h
    | param name => exact ih h
    | wildcard =>
      have hnil : rest ++ wildcard :: after = [] := h
      exact absurd hnil (by simp)

theorem filterMap_literal (text : String) (rest : List Segment) :
    (literal text :: rest).filterMap name? = rest.filterMap name? := rfl

theorem filterMap_param (name : String) (rest : List Segment) :
    (param name :: rest).filterMap name? = name :: rest.filterMap name? := rfl

theorem filterMap_wildcard : [wildcard].filterMap name? = [wildcardName] := rfl

/-- A segment captures under the name that its piece has for a gap. -/
theorem name?_ofPiece (piece : String) : (ofPiece piece).name? = Template.gap? piece := by
  unfold ofPiece Template.gap? isWildcard
  by_cases h : piece = "*" ∨ piece = ":*"
  · rw [if_pos h, if_pos (by simpa using h)]
    rfl
  · rw [if_neg h, if_neg (by simpa using h)]
    split <;> rfl

/-- And it is filled as its piece is. -/
theorem fill_ofPiece (value : String → String) (piece : String) :
    (ofPiece piece).fill value = Template.fillPiece value piece := by
  unfold ofPiece Template.fillPiece Template.gap? isWildcard
  by_cases h : piece = "*" ∨ piece = ":*"
  · rw [if_pos h, if_pos (by simpa using h)]
    rfl
  · rw [if_neg h, if_neg (by simpa using h)]
    split <;> rfl

/-- A parameter never has the name of the wildcard: the piece that would spell it is a wildcard. -/
theorem ne_wildcardName_of_ofPiece {piece name : String} (h : ofPiece piece = param name) :
    name ≠ wildcardName := by
  rintro rfl
  unfold ofPiece at h
  by_cases hw : isWildcard piece
  · rw [if_pos hw] at h
    nomatch h
  · rw [if_neg hw] at h
    split at h
    · rename_i cs hcs
      have hname : String.ofList cs = "*" := by simpa [wildcardName] using h
      have hpiece : piece = ":*" := by
        apply String.toList_injective
        rw [hcs, ← String.toList_ofList (l := cs), hname]
        rfl
      exact hw (by simp [isWildcard, hpiece])
    · nomatch h

/-- A literal is the piece that it was read from. -/
theorem eq_of_ofPiece_literal {piece text : String} (h : ofPiece piece = literal text) :
    text = piece := by
  unfold ofPiece at h
  split at h
  · nomatch h
  · split at h
    · nomatch h
    · exact (Segment.literal.inj h).symm

/-- A piece is read as a wildcard, as a parameter or as a literal, by how it begins. -/
theorem ofPiece_of_isWildcard {piece : String} (h : isWildcard piece) : ofPiece piece = wildcard :=
  if_pos h

theorem ofPiece_of_colon {piece : String} {cs : List Char} (hw : ¬ isWildcard piece)
    (h : piece.toList = ':' :: cs) : ofPiece piece = param (String.ofList cs) := by
  rw [ofPiece, if_neg hw, h]
  rfl

theorem ofPiece_of_ne_colon {piece : String} (hw : ¬ isWildcard piece)
    (h : ∀ cs, piece.toList ≠ ':' :: cs) : ofPiece piece = literal piece := by
  rw [ofPiece, if_neg hw]
  split
  · rename_i cs hcs
    exact absurd hcs (h cs)
  · rfl

/-- One step of reading: either the piece is a wildcard and the last one, or the rest was read as
    well, and a name that the piece binds was not there before. -/
theorem readAll_cons {seen rest : List String} {piece : String} {segments : List Segment}
    (h : readAll seen (piece :: rest) = .ok segments) :
    (ofPiece piece = wildcard ∧ rest = [] ∧ segments = [wildcard]) ∨
    (∃ tail, ∃ name, ofPiece piece = param name ∧ name ∉ seen ∧
      readAll (name :: seen) rest = .ok tail ∧ segments = param name :: tail) ∨
    (∃ tail, ofPiece piece = literal piece ∧ readAll seen rest = .ok tail ∧
      segments = literal piece :: tail) := by
  unfold readAll at h
  by_cases hw : isWildcard piece
  · rw [if_pos hw] at h
    cases rest with
    | nil => exact Or.inl ⟨ofPiece_of_isWildcard hw, rfl, (Except.ok.inj h).symm⟩
    | cons q qs => nomatch h
  · rw [if_neg hw] at h
    split at h
    · rename_i cs hcs
      refine Or.inr (Or.inl ?_)
      by_cases hempty : (String.ofList cs).isEmpty
      · simp only [hempty, if_true] at h
        nomatch h
      · by_cases hseen : String.ofList cs ∈ seen
        · simp only [hempty, hseen, if_true, if_false, Bool.false_eq_true] at h
          nomatch h
        · simp only [hempty, hseen, if_false, Bool.false_eq_true] at h
          cases hrest : readAll (String.ofList cs :: seen) rest with
          | error e => rw [hrest] at h; nomatch h
          | ok tail =>
            rw [hrest] at h
            exact ⟨tail, _, ofPiece_of_colon hw hcs, hseen, hrest, (Except.ok.inj h).symm⟩
    · rename_i hnot
      refine Or.inr (Or.inr ?_)
      cases hrest : readAll seen rest with
      | error e => rw [hrest] at h; nomatch h
      | ok tail =>
        rw [hrest] at h
        exact ⟨tail, ofPiece_of_ne_colon hw hnot, rfl, (Except.ok.inj h).symm⟩

/-- **Reading all pieces** reads each on its own. -/
theorem readAll_eq_map {seen pieces : List String} {segments : List Segment}
    (h : readAll seen pieces = .ok segments) : segments = pieces.map ofPiece := by
  induction pieces generalizing seen segments with
  | nil => exact (Except.ok.inj h).symm
  | cons piece rest ih =>
    rcases readAll_cons h with ⟨hp, rfl, rfl⟩ | ⟨tail, name, hp, -, htail, rfl⟩ |
      ⟨tail, hp, htail, rfl⟩
    · rw [List.map_cons, hp, List.map_nil]
    · rw [List.map_cons, hp, ih htail]
    · rw [List.map_cons, hp, ih htail]

/-- A wildcard that was accepted is the last segment. -/
theorem readAll_wildcardLast {seen pieces : List String} {segments : List Segment}
    (h : readAll seen pieces = .ok segments) : WildcardLast segments := by
  induction pieces generalizing seen segments with
  | nil => exact (Except.ok.inj h) ▸ trivial
  | cons piece rest ih =>
    rcases readAll_cons h with ⟨-, -, rfl⟩ | ⟨tail, name, -, -, htail, rfl⟩ |
      ⟨tail, -, htail, rfl⟩
    · rfl
    · show WildcardLast tail
      exact ih htail
    · show WildcardLast tail
      exact ih htail

/-- The names that are bound are all different, and the parameters among them are new. -/
theorem readAll_names {seen pieces : List String} {segments : List Segment}
    (h : readAll seen pieces = .ok segments) :
    (segments.filterMap name?).Nodup ∧
      ∀ name ∈ segments.filterMap name?, name ≠ wildcardName → name ∉ seen := by
  induction pieces generalizing seen segments with
  | nil =>
    obtain rfl : segments = [] := (Except.ok.inj h).symm
    exact ⟨List.nodup_nil, fun name hname => absurd hname List.not_mem_nil⟩
  | cons piece rest ih =>
    rcases readAll_cons h with ⟨-, -, rfl⟩ | ⟨tail, name, hp, hnew, htail, rfl⟩ |
      ⟨tail, -, htail, rfl⟩
    · rw [filterMap_wildcard]
      exact ⟨List.pairwise_singleton _ _, fun name hname hne => absurd (List.mem_singleton.mp hname) hne⟩
    · obtain ⟨hnodup, hfresh⟩ := ih htail
      have hname : name ≠ wildcardName := ne_wildcardName_of_ofPiece hp
      have hnotin : name ∉ tail.filterMap name? := fun hin =>
        hfresh name hin hname (List.mem_cons_self ..)
      rw [filterMap_param]
      refine ⟨List.nodup_cons.mpr ⟨hnotin, hnodup⟩, fun other hother hne => ?_⟩
      rcases List.mem_cons.mp hother with rfl | hin
      · exact hnew
      · exact fun hseen => hfresh other hin hne (List.mem_cons_of_mem _ hseen)
    · rw [filterMap_literal]
      exact ih htail

/-! ## Filled templates are matched, and what is matched is a filled template -/

/-- A parameter matches one piece, unless that is empty. -/
theorem matchAll_param (name : String) {part : String} (hpart : part ≠ "") (segments : List Segment)
    (parts : List String) :
    matchAll (param name :: segments) (part :: parts)
      = (matchAll segments parts).map ((name, part) :: ·) := by
  have hnot : part.isEmpty = false := by simpa using hpart
  rw [matchAll, hnot]
  rfl

/-- A wildcard matches all that is left, put together again. -/
theorem matchAll_wildcard {parts : List String} (hne : parts ≠ []) (segments : List Segment) :
    matchAll (wildcard :: segments) parts = some [(wildcardName, Text.slashJoin parts)] := by
  cases parts with
  | nil => exact absurd rfl hne
  | cons part parts => rfl

/-- A filled template is matched, with the values that it was filled with. -/
theorem matchAll_fill (value : String → String) {segments : List Segment}
    (hlast : WildcardLast segments)
    (hlit : ∀ text, literal text ∈ segments → '/' ∉ text.toList)
    (hval : ∀ name, param name ∈ segments → value name ≠ "" ∧ '/' ∉ (value name).toList) :
    matchAll segments (Text.recut (segments.map (fill value)))
      = some ((segments.filterMap name?).map fun name => (name, value name)) := by
  induction segments with
  | nil => rfl
  | cons segment rest ih =>
    have hlit' : ∀ text, literal text ∈ rest → '/' ∉ text.toList := fun text htext =>
      hlit text (List.mem_cons_of_mem _ htext)
    have hval' : ∀ name, param name ∈ rest → value name ≠ "" ∧ '/' ∉ (value name).toList :=
      fun name hname => hval name (List.mem_cons_of_mem _ hname)
    cases segment with
    | literal text =>
      have hrest := ih hlast hlit' hval'
      rw [List.map_cons, fill, Text.recut_cons (hlit text (List.mem_cons_self ..)),
        filterMap_literal, ← hrest, matchAll, if_pos rfl]
    | param name =>
      obtain ⟨hne, hslash⟩ := hval name (List.mem_cons_self ..)
      have hrest := ih hlast hlit' hval'
      rw [List.map_cons, fill, Text.recut_cons hslash, filterMap_param, matchAll_param name hne,
        hrest]
      rfl
    | wildcard =>
      have hnil : rest = [] := hlast
      subst hnil
      rw [List.map_cons, List.map_nil, fill, Text.recut_singleton,
        matchAll_wildcard (Text.slashPieces_ne_nil _), Text.slashJoin_slashPieces]
      rfl

/-- What a match binds are the names of the template, in order. -/
theorem names_of_matchAll {segments : List Segment} {parts : List String}
    {entries : List (String × String)} (hlast : WildcardLast segments)
    (h : matchAll segments parts = some entries) :
    entries.map (·.1) = segments.filterMap name? := by
  induction segments generalizing parts entries with
  | nil =>
    cases parts with
    | nil =>
      obtain rfl : entries = [] := (Option.some.inj h).symm
      rfl
    | cons part parts => nomatch h
  | cons segment rest ih =>
    cases parts with
    | nil => cases segment <;> nomatch h
    | cons part parts =>
      cases segment with
      | literal text =>
        rw [matchAll] at h
        by_cases htext : part = text
        · rw [if_pos htext] at h
          exact ih hlast h
        · rw [if_neg htext] at h
          nomatch h
      | param name =>
        by_cases hempty : part = ""
        · subst hempty
          nomatch h
        · rw [matchAll_param name hempty] at h
          obtain ⟨entries', h', rfl⟩ := Option.map_eq_some_iff.mp h
          rw [List.map_cons, filterMap_param, ih hlast h']
      | wildcard =>
        have hrest : rest = [] := hlast
        subst hrest
        obtain rfl : entries = [(wildcardName, Text.slashJoin (part :: parts))] :=
          (Option.some.inj h).symm
        rfl

/-- What is matched is the template filled with the bound values, and those of parameters are pieces
    that are not empty. -/
theorem fill_of_matchAll (value : String → String) {segments : List Segment} {parts : List String}
    {entries : List (String × String)} (hlast : WildcardLast segments)
    (h : matchAll segments parts = some entries) (hval : ∀ e ∈ entries, value e.1 = e.2)
    (hparts : ∀ part ∈ parts, '/' ∉ part.toList) :
    (segments.map (fill value) = [] ↔ parts = []) ∧
      Text.slashJoin (segments.map (fill value)) = Text.slashJoin parts ∧
      ∀ name, param name ∈ segments → value name ≠ "" ∧ '/' ∉ (value name).toList := by
  induction segments generalizing parts entries with
  | nil =>
    cases parts with
    | nil => exact ⟨Iff.rfl, rfl, fun name hname => absurd hname List.not_mem_nil⟩
    | cons part parts => nomatch h
  | cons segment rest ih =>
    cases parts with
    | nil => cases segment <;> nomatch h
    | cons part parts =>
      have hparts' : ∀ p ∈ parts, '/' ∉ p.toList := fun p hp =>
        hparts p (List.mem_cons_of_mem _ hp)
      cases segment with
      | literal text =>
        rw [matchAll] at h
        by_cases htext : part = text
        · rw [if_pos htext] at h
          obtain ⟨hnil, hjoin, hfit⟩ := ih hlast h hval hparts'
          refine ⟨by simp, ?_, fun name hname => hfit name (by simpa using hname)⟩
          rw [List.map_cons, fill, ← htext]
          exact Text.slashJoin_cons_congr part hnil hjoin
        · rw [if_neg htext] at h
          nomatch h
      | param name =>
        by_cases hempty : part = ""
        · subst hempty
          nomatch h
        · rw [matchAll_param name hempty] at h
          obtain ⟨entries', h', rfl⟩ := Option.map_eq_some_iff.mp h
          have hname : value name = part := hval (name, part) (List.mem_cons_self ..)
          obtain ⟨hnil, hjoin, hfit⟩ :=
            ih hlast h' (fun e he => hval e (List.mem_cons_of_mem _ he)) hparts'
          refine ⟨by simp, ?_, ?_⟩
          · rw [List.map_cons, fill, hname]
            exact Text.slashJoin_cons_congr part hnil hjoin
          · intro other hother
            rcases List.mem_cons.mp hother with heq | hin
            · obtain rfl : other = name := Segment.param.inj heq
              exact hname ▸ ⟨hempty, hparts part (List.mem_cons_self ..)⟩
            · exact hfit other hin
      | wildcard =>
        have hrest : rest = [] := hlast
        subst hrest
        obtain rfl : entries = [(wildcardName, Text.slashJoin (part :: parts))] :=
          (Option.some.inj h).symm
        have hname : value wildcardName = Text.slashJoin (part :: parts) :=
          hval _ (List.mem_cons_self ..)
        refine ⟨by simp, ?_, fun name hin => by simp at hin⟩
        rw [List.map_cons, List.map_nil, fill, Text.slashJoin_singleton, hname]

end Segment

/-! ## Looking up what is bound -/

namespace Params

/-- A name that is bound once is looked up with its value. -/
theorem get?_of_mem {entries : List (String × String)} (hnodup : (entries.map (·.1)).Nodup)
    {name value : String} (he : (name, value) ∈ entries) : get? ⟨entries⟩ name = some value := by
  have hfind : entries.find? (·.1 = name) = some (name, value) := by
    refine (List.find?_eq_some_iff_append).mpr ⟨by simp, ?_⟩
    obtain ⟨before, after, rfl⟩ := List.append_of_mem he
    refine ⟨before, after, rfl, fun other hother => ?_⟩
    rw [List.map_append, List.map_cons] at hnodup
    have hne : other.1 ≠ name := fun heq =>
      (List.nodup_append.mp hnodup).2.2 other.1 (List.mem_map_of_mem hother) name
        (List.mem_cons_self ..) heq
    simpa using hne
  show (entries.find? (·.1 = name)).map (·.2) = some value
  rw [hfind]
  rfl

/-- A name that nothing was captured under has no value. -/
theorem get?_of_notMem {entries : List (String × String)} {name : String}
    (h : name ∉ entries.map (·.1)) : get? ⟨entries⟩ name = none := by
  have hfind : entries.find? (·.1 = name) = none := by
    rw [List.find?_eq_none]
    intro e he heq
    exact h (List.mem_map.mpr ⟨e, he, by simpa using heq⟩)
  show (entries.find? (·.1 = name)).map (·.2) = none
  rw [hfind]
  rfl

end Params

/-! ## Compiled templates -/

namespace Pattern

/-- The pieces of a path are those after its first slash. -/
theorem pieces?_slash (rest : String) : pieces? ("/" ++ rest) = some (Text.slashPieces rest) := by
  have hlist : ("/" ++ rest).toList = '/' :: rest.toList := by simp
  rw [pieces?, hlist]
  simp

/-- And a path with pieces is a slash, and then its pieces with slashes in between. -/
theorem eq_slash_of_pieces? {path : String} {parts : List String} (h : pieces? path = some parts) :
    path = "/" ++ Text.slashJoin parts ∧ ∀ part ∈ parts, '/' ∉ part.toList := by
  unfold pieces? at h
  split at h
  · rename_i rest hpath
    obtain rfl : parts = Text.slashPieces (String.ofList rest) := (Option.some.inj h).symm
    refine ⟨?_, fun part => Text.notMem_of_mem_slashPieces⟩
    apply String.toList_injective
    rw [hpath, Text.slashJoin_slashPieces]
    simp
  · nomatch h

/-- A template that compiles begins with a slash, and its pieces were read.  It is kept as a whole if
    they bind nothing. -/
theorem readAll_of_compile {template : String} {pattern : Pattern}
    (h : compile template = .ok pattern) :
    pieces? template = some (Template.pieces template) ∧
      ∃ segments, Segment.readAll [] (Template.pieces template) = .ok segments ∧
        pattern.names = segments.filterMap Segment.name? ∧
        (segments.filterMap Segment.name? = [] ∧ pattern = constant template ∨
          pattern = parameterized template segments (segments.filterMap Segment.name?)) := by
  unfold compile at h
  cases hpieces : pieces? template with
  | none => rw [hpieces] at h; nomatch h
  | some ps =>
    obtain ⟨rest, hrest⟩ : ∃ rest, template = "/" ++ rest :=
      ⟨_, (eq_slash_of_pieces? hpieces).1⟩
    have hps : Template.pieces template = ps := by
      rw [hrest, pieces?_slash] at hpieces
      rw [← Option.some.inj hpieces, Template.pieces, hrest]
      simp
    rw [hps]
    refine ⟨rfl, ?_⟩
    rw [hpieces] at h
    cases hread : Segment.readAll [] ps with
    | error e => simp only [hread] at h; nomatch h
    | ok segments =>
      simp only [hread] at h
      refine ⟨segments, rfl, ?_⟩
      cases hnames : segments.filterMap Segment.name? with
      | nil =>
        simp only [hnames] at h
        obtain rfl := Except.ok.inj h
        exact ⟨rfl, Or.inl ⟨rfl, rfl⟩⟩
      | cons name names =>
        simp only [hnames] at h
        obtain rfl := Except.ok.inj h
        exact ⟨rfl, Or.inr rfl⟩

/-- The pieces tell paths apart. -/
theorem pieces?_injective {path path' : String} {parts : List String} (h : pieces? path = some parts)
    (h' : pieces? path' = some parts) : path = path' :=
  (eq_slash_of_pieces? h).1.trans (eq_slash_of_pieces? h').1.symm

/-- Pieces that bind nothing are read as the texts that they are. -/
theorem map_ofPiece_of_names_nil {pieces : List String}
    (h : (pieces.map Segment.ofPiece).filterMap Segment.name? = []) :
    pieces.map Segment.ofPiece = pieces.map .literal := by
  refine List.map_congr_left fun piece hpiece => ?_
  have hname := List.filterMap_eq_nil_iff.mp h (Segment.ofPiece piece) (List.mem_map_of_mem hpiece)
  cases hp : Segment.ofPiece piece with
  | literal text => rw [Segment.eq_of_ofPiece_literal hp]
  | param name => rw [hp] at hname; nomatch hname
  | wildcard => rw [hp] at hname; nomatch hname

/-- Texts are matched by themselves only. -/
theorem matchAll_literal (texts parts : List String) :
    Segment.matchAll (texts.map .literal) parts = if parts = texts then some [] else none := by
  induction texts generalizing parts with
  | nil => cases parts <;> rfl
  | cons text texts ih =>
    cases parts with
    | nil => rfl
    | cons part parts =>
      rw [List.map_cons, Segment.matchAll, ih]
      by_cases hpart : part = text
      · rw [if_pos hpart, hpart]
        simp
      · rw [if_neg hpart, if_neg fun heq => hpart (List.cons.inj heq).1]

/-- A pattern matches a path as its pieces match those of the path.  A template that is compared as a
    whole is no exception. -/
theorem matchPath?_eq {template : String} {pattern : Pattern} {segments : List Segment}
    (h : compile template = .ok pattern)
    (hread : Segment.readAll [] (Template.pieces template) = .ok segments) (path : String) :
    pattern.matchPath? path
      = (pieces? path).bind fun parts => (Segment.matchAll segments parts).map Params.mk := by
  obtain ⟨hpieces, segments', hread', -, hpattern⟩ := readAll_of_compile h
  obtain rfl : segments = segments' := Except.ok.inj (hread.symm.trans hread')
  rcases hpattern with ⟨hnil, rfl⟩ | rfl
  · have hsegments := Segment.readAll_eq_map hread
    rw [hsegments] at hnil
    rw [hsegments, map_ofPiece_of_names_nil hnil]
    show (if template = path then some (⟨[]⟩ : Params) else none) = _
    by_cases heq : template = path
    · rw [if_pos heq, ← heq, hpieces, Option.bind_some, matchAll_literal, if_pos rfl]
      rfl
    · rw [if_neg heq]
      cases hparts : pieces? path with
      | none => rfl
      | some parts =>
        have hne : parts ≠ Template.pieces template := fun hsame =>
          heq (pieces?_injective hpieces (hsame ▸ hparts))
        rw [Option.bind_some, matchAll_literal, if_neg hne]
        rfl
  · rfl

end Pattern

/-! ## The matcher is exact -/

namespace Template

/-- What compiling a template says about its reading as a text with gaps: its literal pieces and its
    gaps are those of the pieces that were read. -/
theorem fill_of_readAll {template : String} {segments : List Segment}
    (h : Segment.readAll [] (pieces template) = .ok segments) :
    segments.filterMap Segment.name? = names template ∧
      (∀ value, segments.map (Segment.fill value) = (pieces template).map (fillPiece value)) ∧
      (∀ text, Segment.literal text ∈ segments → '/' ∉ text.toList) := by
  have hmap := Segment.readAll_eq_map h
  refine ⟨?_, fun value => ?_, fun text htext => ?_⟩
  · have hgap : Segment.name? ∘ Segment.ofPiece = gap? := funext Segment.name?_ofPiece
    rw [hmap, List.filterMap_map, hgap, names]
  · have hfill : Segment.fill value ∘ Segment.ofPiece = fillPiece value :=
      funext (Segment.fill_ofPiece value)
    rw [hmap, List.map_map, hfill]
  · rw [hmap] at htext
    obtain ⟨piece, hpiece, hread⟩ := List.mem_map.mp htext
    rw [Segment.eq_of_ofPiece_literal hread]
    exact Text.notMem_of_mem_slashPieces hpiece

/-- The parameters are the gaps that do not have the name of the wildcard. -/
theorem admits_iff {template : String} {segments : List Segment}
    (h : Segment.readAll [] (pieces template) = .ok segments) (value : String → String) :
    Admits template value ↔
      ∀ name, Segment.param name ∈ segments → value name ≠ "" ∧ '/' ∉ (value name).toList := by
  obtain ⟨hnames, -, -⟩ := fill_of_readAll h
  have hmap := Segment.readAll_eq_map h
  constructor
  · intro hadmits name hname
    refine hadmits name ?_ ?_
    · rw [← hnames]
      exact List.mem_filterMap.mpr ⟨_, hname, rfl⟩
    · rw [hmap] at hname
      obtain ⟨piece, -, hread⟩ := List.mem_map.mp hname
      exact Segment.ne_wildcardName_of_ofPiece hread
  · intro hparams name hname hne
    rw [← hnames] at hname
    obtain ⟨segment, hin, hsegment⟩ := List.mem_filterMap.mp hname
    cases segment with
    | literal text => nomatch hsegment
    | param other =>
      obtain rfl : other = name := Option.some.inj hsegment
      exact hparams other hin
    | wildcard => exact absurd (Option.some.inj hsegment).symm hne

/-- A compiled template matches a path that fills it, with the values that fill it. -/
theorem matchPath?_of_fills {template path : String} {pattern : Pattern} {value : String → String}
    (h : Pattern.compile template = .ok pattern) (hfills : Fills template path value) :
    pattern.matchPath? path = some ⟨pattern.names.map fun name => (name, value name)⟩ := by
  obtain ⟨hpieces, segments, hread, hnames, -⟩ := Pattern.readAll_of_compile h
  obtain ⟨-, hfill, hlit⟩ := fill_of_readAll hread
  obtain ⟨hadmits, hpath⟩ := hfills
  have hne : (pieces template).map (fillPiece value) ≠ [] := fun hnil =>
    Text.slashPieces_ne_nil _ (List.map_eq_nil_iff.mp hnil)
  have hmatch := Segment.matchAll_fill value (Segment.readAll_wildcardLast hread) hlit
    ((admits_iff hread value).mp hadmits)
  rw [hfill, Text.recut, if_neg hne] at hmatch
  rw [Pattern.matchPath?_eq h hread, ← hpath, fill, Pattern.pieces?_slash, Option.bind_some, hmatch,
    hnames]
  rfl

/-- What a compiled template matches fills it. -/
theorem fills_of_matchPath? {template path : String} {pattern : Pattern} {params : Params}
    (h : Pattern.compile template = .ok pattern) (hmatch : pattern.matchPath? path = some params) :
    ∃ value, Fills template path value ∧
      params.entries = pattern.names.map fun name => (name, value name) := by
  obtain ⟨hpieces, segments, hread, hnames, -⟩ := Pattern.readAll_of_compile h
  obtain ⟨-, hfill, -⟩ := fill_of_readAll hread
  rw [Pattern.matchPath?_eq h hread] at hmatch
  obtain ⟨parts, hparts, hrest⟩ := Option.bind_eq_some_iff.mp hmatch
  obtain ⟨entries, hentries, rfl⟩ := Option.map_eq_some_iff.mp hrest
  obtain ⟨hpath, hslash⟩ := Pattern.eq_slash_of_pieces? hparts
  -- the names differ, so looking them up gives back what was bound
  have hlast := Segment.readAll_wildcardLast hread
  have hbound := Segment.names_of_matchAll hlast hentries
  have hkeys : (entries.map (·.1)).Nodup := by
    rw [hbound]
    exact (Segment.readAll_names hread).1
  let value : String → String := fun name => ((⟨entries⟩ : Params).get? name).getD ""
  have hvalue : ∀ e ∈ entries, value e.1 = e.2 := fun e he => by
    show ((⟨entries⟩ : Params).get? e.1).getD "" = e.2
    rw [Params.get?_of_mem hkeys he]
    rfl
  obtain ⟨-, hjoin, hfit⟩ := Segment.fill_of_matchAll value hlast hentries hvalue hslash
  refine ⟨value, ⟨(admits_iff hread value).mpr hfit, ?_⟩, ?_⟩
  · rw [fill, ← hfill, hjoin, hpath]
  · rw [hnames, ← hbound, List.map_map]
    refine (List.map_id _).symm.trans (List.map_congr_left fun e he => ?_)
    show e = (e.1, value e.1)
    rw [hvalue e he]

/-- A pattern captures under the names of its template. -/
theorem names_of_compile {template : String} {pattern : Pattern}
    (h : Pattern.compile template = .ok pattern) : pattern.names = names template := by
  obtain ⟨-, segments, hread, hnames, -⟩ := Pattern.readAll_of_compile h
  rw [hnames, (fill_of_readAll hread).1]

/-- And these are all different. -/
theorem nodup_names_of_compile {template : String} {pattern : Pattern}
    (h : Pattern.compile template = .ok pattern) : (names template).Nodup := by
  obtain ⟨-, segments, hread, -, -⟩ := Pattern.readAll_of_compile h
  rw [← (fill_of_readAll hread).1]
  exact (Segment.readAll_names hread).1

/-- A gap that takes the rest of a path is the last piece of its template. -/
theorem wildcard_is_last {template : String} {pattern : Pattern}
    (h : Pattern.compile template = .ok pattern) {before after : List String} {piece : String}
    (hsplit : pieces template = before ++ piece :: after) (hgap : gap? piece = some wildcardName) :
    after = [] := by
  obtain ⟨-, segments, hread, -, -⟩ := Pattern.readAll_of_compile h
  have hlast := Segment.readAll_wildcardLast hread
  rw [Segment.readAll_eq_map hread, hsplit, List.map_append, List.map_cons] at hlast
  have hpiece : Segment.ofPiece piece = .wildcard := by
    rw [← Segment.name?_ofPiece] at hgap
    cases hp : Segment.ofPiece piece with
    | literal text => rw [hp] at hgap; nomatch hgap
    | param name =>
      rw [hp] at hgap
      exact absurd (Option.some.inj hgap) (Segment.ne_wildcardName_of_ofPiece hp)
    | wildcard => rfl
  rw [hpiece] at hlast
  exact List.map_eq_nil_iff.mp (Segment.eq_nil_of_wildcardLast hlast)

/-- There is one way of filling a template to give a path. -/
theorem fills_unique {template path : String} {pattern : Pattern}
    (h : Pattern.compile template = .ok pattern) {value value' : String → String}
    (hfills : Fills template path value) (hfills' : Fills template path value') {name : String}
    (hname : name ∈ names template) : value name = value' name := by
  have hsame := (matchPath?_of_fills h hfills).symm.trans (matchPath?_of_fills h hfills')
  have hentries := Params.mk.inj (Option.some.inj hsame)
  rw [names_of_compile h] at hentries
  have hpair : (name, value name) = (name, value' name) := List.map_inj_left.mp hentries name hname
  exact (Prod.mk.inj hpair).2

/-- Looking up a name in what a match binds gives the value that fills its gap. -/
theorem get?_of_fills {template path : String} {pattern : Pattern}
    (h : Pattern.compile template = .ok pattern) {params : Params} {value : String → String}
    (hp : pattern.matchPath? path = some params) (hfills : Fills template path value) (name : String) :
    params.get? name = if name ∈ names template then some (value name) else none := by
  rw [matchPath?_of_fills h hfills, names_of_compile h] at hp
  obtain rfl := Option.some.inj hp
  have hkeys : ((names template).map fun name => (name, value name)).map (·.1) = names template := by
    rw [List.map_map]
    exact List.map_id _
  by_cases hin : name ∈ names template
  · have hentry : (name, value name) ∈ (names template).map fun name => (name, value name) :=
      List.mem_map.mpr ⟨name, hin, rfl⟩
    rw [if_pos hin]
    exact Params.get?_of_mem (hkeys.symm ▸ nodup_names_of_compile h) hentry
  · rw [if_neg hin]
    exact Params.get?_of_notMem (hkeys.symm ▸ hin)

/-- **The matcher is exact.**  A compiled template matches a path exactly if its gaps can be filled to
    give the path; there is one way of filling them, and it is what the match binds, name by name in
    the order of the template.  Looking up a name gives the value that fills its gap, and a path that
    does not begin with a slash is never matched. -/
theorem compile_matches_iff_fills {template : String} {pattern : Pattern}
    (h : Pattern.compile template = .ok pattern) (path : String) :
    (pattern.names = names template ∧
      ∀ before piece after, pieces template = before ++ piece :: after →
        gap? piece = some wildcardName → after = []) ∧
    (∀ params, pattern.matchPath? path = some params ↔
      ∃ value, Fills template path value ∧
        params.entries = pattern.names.map fun name => (name, value name)) ∧
    (∀ value value', Fills template path value → Fills template path value' →
      ∀ name ∈ names template, value name = value' name) ∧
    (∀ params value, pattern.matchPath? path = some params → Fills template path value →
      (∀ name, params.get? name = if name ∈ names template then some (value name) else none) ∧
      params.wildcard? =
        if wildcardName ∈ names template then some (value wildcardName) else none) ∧
    (pattern.matchPath? path = none ↔ ¬ ∃ value, Fills template path value) ∧
    (path.toList.head? ≠ some '/' → pattern.matchPath? path = none) := by
  have hnames : pattern.names = names template := names_of_compile h
  have hmatch : ∀ params, pattern.matchPath? path = some params ↔
      ∃ value, Fills template path value ∧
        params.entries = pattern.names.map fun name => (name, value name) := by
    intro params
    constructor
    · exact fills_of_matchPath? h
    · rintro ⟨value, hfills, hentries⟩
      rw [matchPath?_of_fills h hfills, ← hentries]
  have hnone : pattern.matchPath? path = none ↔ ¬ ∃ value, Fills template path value := by
    constructor
    · rintro hnone ⟨value, hfills⟩
      rw [matchPath?_of_fills h hfills] at hnone
      nomatch hnone
    · intro hnot
      cases hp : pattern.matchPath? path with
      | none => rfl
      | some params =>
        obtain ⟨value, hfills, -⟩ := fills_of_matchPath? h hp
        exact absurd ⟨value, hfills⟩ hnot
  refine ⟨⟨hnames, fun before piece after => wildcard_is_last h⟩, hmatch, ?_, ?_, hnone, ?_⟩
  · intro value value' hfills hfills' name hname
    exact fills_unique h hfills hfills' hname
  · intro params value hp hfills
    exact ⟨get?_of_fills h hp hfills, get?_of_fills h hp hfills wildcardName⟩
  · intro hhead
    rw [hnone]
    rintro ⟨value, -, hpath⟩
    rw [← hpath] at hhead
    exact hhead (by simp [fill])

/-- The values that fill `/repos/:owner/*` to give `/repos/acme/src/main.rs`, slashes in the rest of the
    path included. -/
theorem compile_matches_repos :
    ∃ pattern, Pattern.compile "/repos/:owner/*" = .ok pattern ∧
      pattern.matchPath? "/repos/acme/src/main.rs"
        = some ⟨[("owner", "acme"), ("*", "src/main.rs")]⟩ := by
  have h : Pattern.compile "/repos/:owner/*" = .ok (.parameterized "/repos/:owner/*"
      [.literal "repos", .param "owner", .wildcard] ["owner", "*"]) := rfl
  let value : String → String := fun name => if name = "owner" then "acme" else "src/main.rs"
  have hfill : fill value "/repos/:owner/*" = "/repos/acme/src/main.rs" := by decide
  have hadmits : Admits "/repos/:owner/*" value := by
    intro name hname hne
    have hnames : names "/repos/:owner/*" = ["owner", "*"] := rfl
    rw [hnames] at hname
    rcases List.mem_cons.mp hname with rfl | hname
    · exact ⟨by decide, by decide⟩
    · exact absurd (List.mem_singleton.mp hname) hne
  refine ⟨_, h, ?_⟩
  exact ((compile_matches_iff_fills h "/repos/acme/src/main.rs").2.1 _).mpr
    ⟨value, ⟨hadmits, hfill⟩, rfl⟩

end Template
end Route
end Switchyard
