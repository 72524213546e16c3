import Switchyard.Proofs.App.Visits
import Switchyard.Proofs.Groups.Bodies
import Switchyard.Proofs.Groups.Ledger
import Switchyard.Proofs.Json.Values
import Switchyard.Proofs.Number.Words
import Switchyard.Proofs.Route.Template

/-!
  What requests to the groups are answered with.

  `Ledger.Replies` has a rule for everything that may be asked of the groups: the reply, and the ledger
  afterwards.  The rules are about the method, the path and the body of a request, and the numbers in them
  have no bound but the size of a word.

  * `Ledger.Replies.shows`        — the body of a reply that shows groups is read back as groups of the
    ledger afterwards: one that is there, or all of them in order;
  * `matchPath?_group_iff`        — the paths of single groups, and the words in them;
  * `not_replies_of_unanswered`   — the rules are only about what a route answers;
  * `replies_of_run`              — the callback of a route replies by the rules, and the groups represent
    the ledger again.
-/

namespace Switchyard

namespace Groups

/-- A group in an answer. -/
def entryJson (g : Nat × String) : Json := .object [("id", .nat g.1), ("name", .string g.2)]

/-- The path is that of a single group, which it names by a word. -/
structure Single (path raw : String) : Prop where
  path : path = "/groups/" ++ raw
  nonempty : raw ≠ ""
  piece : '/' ∉ raw.toList

/-- What a request to the groups is answered with, and the ledger that comes after. -/
inductive Ledger.Replies (l : Ledger) (method path : String) (body : Bytes) : Http.Response → Ledger → Prop where
  /-- A group is created: it has the number after the last one. -/
  | created {name : String} (hmethod : method = "POST") (hpath : path = "/groups/")
      (hbody : createShape.read body = .ok (.object [("name", .string name)])) :
      Replies l method path body (.json 201 (entryJson (l.created + 1, name))) (l.add name)
  /-- The body is not that of a group. -/
  | undecodable {f : Json.Fault} (hmethod : method = "POST") (hpath : path = "/groups/")
      (hbody : createShape.read body = .error f) :
      Replies l method path body (.error 400 ("invalid group: " ++ f.message body)) l
  /-- All groups are listed. -/
  | listed (hmethod : method = "GET") (hpath : path = "/groups/") :
      Replies l method path body (.json 200 (.array (l.listing.map entryJson))) l
  /-- A group that is there is shown. -/
  | found {raw name : String} {id : Nat} (hmethod : method = "GET") (hpath : Single path raw)
      (hraw : Number.Spells raw id) (hlive : l.name? id = some name) :
      Replies l method path body (.json 200 (entryJson (id, name))) l
  /-- A group that is there is removed. -/
  | removed {raw name : String} {id : Nat} (hmethod : method = "DELETE") (hpath : Single path raw)
      (hraw : Number.Spells raw id) (hlive : l.name? id = some name) :
      Replies l method path body (.empty 204) (l.remove id)
  /-- The group is not there. -/
  | missing {raw : String} {id : Nat} (hmethod : method = "GET" ∨ method = "DELETE") (hpath : Single path raw)
      (hraw : Number.Spells raw id) (hword : id < 2 ^ 64) (hgone : l.name? id = none) :
      Replies l method path body (.error 404 ("group " ++ Number.natText id ++ " not found")) l
  /-- The word in the path is no number, or one that is too large. -/
  | unreadable {raw : String} (hmethod : method = "GET" ∨ method = "DELETE") (hpath : Single path raw)
      (hraw : ∀ id, Number.Spells raw id → 2 ^ 64 ≤ id) :
      Replies l method path body (.error 400 ("invalid group id " ++ Text.quote raw)) l

/-! ## What replies show -/

/-- What a reply shows of a ledger: a group that is there, or all of them. -/
inductive Ledger.Shows (l : Ledger) : Json → Prop where
  | entry {id : Nat} {name : String} (h : l.name? id = some name) : l.Shows (entryJson (id, name))
  | listing : l.Shows (.array (l.listing.map entryJson))

/-- An entry tells the number and the name. -/
theorem entryJson_injective : Function.Injective entryJson := by
  intro g g' h
  obtain ⟨hid, hname⟩ := List.cons.inj (Json.object.inj h)
  have hnumber := Int.ofNat.inj (Json.int.inj (Prod.mk.inj hid).2)
  exact Prod.ext hnumber (Json.string.inj (Prod.mk.inj (List.cons.inj hname).1).2)

/-- The entry of a group is read back if its number fits into a word. -/
theorem readsBack_entryJson {g : Nat × String} (hword : g.1 < 2 ^ 64) :
    Json.ReadsBack 2 5 (entryJson g) := by
  have hid : Json.ReadsBack 1 1 (.nat g.1) := Json.readsBack_nat (Nat.le_of_lt_succ hword)
  have hname : Json.ReadsBack 1 1 (.string g.2) := Json.readsBack_string g.2
  have hsorted : [("id", Json.nat g.1), ("name", .string g.2)].Pairwise (·.1 < ·.1) := by
    simp only [List.pairwise_cons, List.mem_singleton, forall_eq, List.not_mem_nil]
    exact ⟨by decide, nofun, List.Pairwise.nil⟩
  exact Json.readsBack_object hsorted (List.forall_mem_cons.mpr ⟨hid, List.forall_mem_singleton.mpr hname⟩)

/-- **What a reply shows is read back from its body**, whatever the names are made of. -/
theorem Ledger.Shows.parse {l : Ledger} {shown : Json} (h : l.Shows shown) (hword : l.created < 2 ^ 64) :
    Json.parse shown.toBytes = .ok shown := by
  have hentry : ∀ {id name}, l.name? id = some name → Json.ReadsBack 2 5 (entryJson (id, name)) :=
    fun hname => readsBack_entryJson (Nat.lt_of_le_of_lt (l.range hname).2 hword)
  cases h with
  | entry hname => exact (hentry hname).parse (by decide) (by omega)
  | listing =>
    have hitems : ∀ item ∈ l.listing.map entryJson, Json.ReadsBack 2 5 item := by
      intro item hitem
      obtain ⟨⟨id, name⟩, hmem, rfl⟩ := List.mem_map.mp hitem
      exact hentry (Ledger.mem_listing.mp hmem)
    exact Json.parse_array hitems (by decide) (by decide)

/-- **A reply that shows something shows what the ledger then has**, and its body is read back as that. -/
theorem Ledger.Replies.shows {l l' : Ledger} {method path : String} {body : Bytes} {rep : Http.Response}
    (h : l.Replies method path body rep l') (hword : l'.created < 2 ^ 64)
    (hstatus : rep.status = 200 ∨ rep.status = 201) :
    ∃ shown, l'.Shows shown ∧ Json.parse rep.body = .ok shown := by
  have htold : ∀ {shown}, l'.Shows shown → rep.body = shown.toBytes →
      ∃ shown, l'.Shows shown ∧ Json.parse rep.body = .ok shown :=
    fun hshows hbody => ⟨_, hshows, hbody ▸ hshows.parse hword⟩
  cases h with
  | created => exact htold (.entry (if_pos rfl)) rfl
  | listed => exact htold .listing rfl
  | found _ _ _ hlive => exact htold (.entry hlive) rfl
  | undecodable => rcases hstatus with h | h <;> cases h
  | removed => rcases hstatus with h | h <;> cases h
  | missing => rcases hstatus with h | h <;> cases h
  | unreadable => rcases hstatus with h | h <;> cases h

/-- Two listings have the same body if they list the same groups, and only then. -/
theorem body_listing_eq_iff {l l' : Ledger} (hword : l.created < 2 ^ 64) (hword' : l'.created < 2 ^ 64) :
    (Http.Response.json 200 (.array (l.listing.map entryJson))).body
      = (Http.Response.json 200 (.array (l'.listing.map entryJson))).body ↔ l.listing = l'.listing := by
  constructor
  · intro h
    have hread := (Ledger.Shows.listing (l := l)).parse hword
    have hread' := (Ledger.Shows.listing (l := l')).parse hword'
    have hsame : (Json.array (l.listing.map entryJson)).toBytes
        = (Json.array (l'.listing.map entryJson)).toBytes := h
    rw [hsame, hread'] at hread
    exact (entryJson_injective.list_map (Json.array.inj (Except.ok.inj hread))).symm
  · intro h
    rw [h]

/-! ## Numbers in paths -/

/-- A word in a path is the number that it spells, if that fits. -/
theorem readId_eq_some_iff {raw : String} {id : GroupId} :
    readId raw = some id ↔ Number.Spells raw id.toNat := by
  rw [readId, Option.map_eq_some_iff]
  constructor
  · rintro ⟨n, hn, rfl⟩
    obtain ⟨hspells, hword⟩ := Number.readWord_eq_some_iff.mp hn
    rw [UInt64.toNat_ofNat_of_lt' hword]
    exact hspells
  · intro hspells
    exact ⟨id.toNat, Number.readWord_eq_some_iff.mpr ⟨hspells, id.toNat_lt⟩, UInt64.ofNat_toNat⟩

/-- And it is none if it spells none that fits. -/
theorem readId_eq_none_iff {raw : String} :
    readId raw = none ↔ ∀ n, Number.Spells raw n → 2 ^ 64 ≤ n := by
  rw [readId, Option.map_eq_none_iff, Option.eq_none_iff_forall_ne_some]
  constructor
  · intro h n hspells
    by_contra hlt
    exact h n (Number.readWord_eq_some_iff.mpr ⟨hspells, Nat.lt_of_not_le hlt⟩)
  · intro h n hn
    obtain ⟨hspells, hword⟩ := Number.readWord_eq_some_iff.mp hn
    exact Nat.not_lt.mpr (h n hspells) hword

end Groups

namespace App

open Route Groups

/-! ## Paths -/

/-- A template without parameters matches itself. -/
theorem matchPath?_constant_iff {template path : String} {params : Params} :
    (Pattern.constant template).matchPath? path = some params ↔ path = template ∧ params = {} := by
  rw [Pattern.matchPath?]
  by_cases h : template = path
  · rw [if_pos h]
    exact ⟨fun heq => ⟨h.symm, (Option.some.inj heq).symm⟩, fun heq => heq.2 ▸ rfl⟩
  · rw [if_neg h]
    exact ⟨nofun, fun heq => absurd heq.1.symm h⟩

/-- Two pieces match the template of a single group if the first is the word that stands in front of all
    groups, and the second is not empty. -/
theorem matchAll_group_iff {parts : List String} {entries : List (String × String)} :
    Segment.matchAll [.literal "groups", .param "id"] parts = some entries ↔
      ∃ raw, parts = ["groups", raw] ∧ raw ≠ "" ∧ entries = [("id", raw)] := by
  constructor
  · intro h
    cases parts with
    | nil => cases h
    | cons front rest =>
      rw [Segment.matchAll] at h
      obtain ⟨rfl, h⟩ := Option.ite_none_right_eq_some.mp h
      cases rest with
      | nil => cases h
      | cons raw more =>
        by_cases hraw : raw = ""
        · rw [hraw] at h
          cases h
        · rw [Segment.matchAll_param "id" hraw] at h
          cases more with
          | nil => exact ⟨raw, rfl, hraw, (Option.some.inj h).symm⟩
          | cons piece more => cases h
  · rintro ⟨raw, rfl, hraw, rfl⟩
    rw [Segment.matchAll, if_pos rfl, Segment.matchAll_param "id" hraw]
    rfl

/-- **A path matches the template of a single group** if it is the path of one, and then the word that names
    the group is bound. -/
theorem matchPath?_group_iff {path : String} {params : Params} :
    groupPattern.matchPath? path = some params ↔ ∃ raw, Single path raw ∧ params = ⟨[("id", raw)]⟩ := by
  rw [groupPattern, Pattern.matchPath?, Option.bind_eq_some_iff]
  constructor
  · rintro ⟨parts, hparts, hmatch⟩
    obtain ⟨entries, hentries, rfl⟩ := Option.map_eq_some_iff.mp hmatch
    obtain ⟨raw, rfl, hraw, rfl⟩ := matchAll_group_iff.mp hentries
    obtain ⟨rfl, hpieces⟩ := Pattern.eq_slash_of_pieces? hparts
    have hpiece : '/' ∉ raw.toList := hpieces raw (List.mem_cons_of_mem _ List.mem_cons_self)
    refine ⟨raw, ⟨?_, hraw, hpiece⟩, rfl⟩
    rw [Text.slashJoin_cons "groups" (List.cons_ne_nil raw []), Text.slashJoin_singleton, ← String.append_assoc,
      ← String.append_assoc]
    rfl
  · rintro ⟨raw, ⟨rfl, hraw, hpiece⟩, rfl⟩
    have hpieces : Pattern.pieces? ("/groups/" ++ raw) = some ["groups", raw] := by
      have hfront : '/' ∉ "groups".toList := by decide
      have hsplit : ("groups/" ++ raw).toList = "groups".toList ++ '/' :: raw.toList := by
        rw [String.toList_append]
        rfl
      rw [show "/groups/" = "/" ++ "groups/" from rfl, String.append_assoc, Pattern.pieces?_slash,
        Text.slashPieces, hsplit, Text.splitOn_append_cons hfront, Text.splitOn_of_notMem hpiece,
        List.map_cons, List.map_singleton, String.ofList_toList, String.ofList_toList]
    refine ⟨["groups", raw], hpieces, ?_⟩
    rw [matchAll_group_iff.mpr ⟨raw, rfl, hraw, rfl⟩]
    rfl

/-- What a route of the groups is called for. -/
inductive CalledFor (method path : String) : Params → Http.Handler State → Prop where
  | create (hmethod : method = "POST") (hpath : path = "/groups/") :
      CalledFor method path {} (createGroup State.groupsAccess)
  | list (hmethod : method = "GET") (hpath : path = "/groups/") :
      CalledFor method path {} (listGroups State.groupsAccess)
  | one {raw : String} (hmethod : method = "GET") (hpath : Single path raw) :
      CalledFor method path ⟨[("id", raw)]⟩ (showGroup State.groupsAccess)
  | remove {raw : String} (hmethod : method = "DELETE") (hpath : Single path raw) :
      CalledFor method path ⟨[("id", raw)]⟩ (removeGroup State.groupsAccess)

/-- **A route of the groups that answers** calls the callback that it was made for. -/
theorem calledFor_of_answers {r : Route State} (hr : r ∈ groupRoutes) {i : Interface}
    {method path : String} {params : Params} (h : r.Answers i method path params) :
    CalledFor method path params r.callback := by
  obtain ⟨-, rfl, hpath⟩ := h
  simp only [groupRoutes, List.mem_cons, List.not_mem_nil, or_false] at hr
  rcases hr with rfl | rfl | rfl | rfl
  · obtain ⟨rfl, rfl⟩ := matchPath?_constant_iff.mp hpath
    exact .create rfl rfl
  · obtain ⟨rfl, rfl⟩ := matchPath?_constant_iff.mp hpath
    exact .list rfl rfl
  · obtain ⟨raw, hsingle, rfl⟩ := matchPath?_group_iff.mp hpath
    exact .one rfl hsingle
  · obtain ⟨raw, hsingle, rfl⟩ := matchPath?_group_iff.mp hpath
    exact .remove rfl hsingle

/-- **The rules leave nothing unanswered that they are about**: where no route answers, no rule applies. -/
theorem not_replies_of_unanswered {dark? : Option DarkId} {method path : String}
    (h : Unanswered (pages dark? ++ groupRoutes) .external method path) (l : Ledger) (body : Bytes)
    (rep : Http.Response) (l' : Ledger) : ¬ l.Replies method path body rep l' := by
  -- a route of the groups would answer
  have hnone : ∀ {r : Route State}, r ∈ groupRoutes → r.method = method →
      ∀ params, r.pattern.matchPath? path ≠ some params := fun hr hmethod params hpath =>
    h _ (List.mem_append_right _ hr) params
      ⟨iff_of_false (by rw [admin_of_mem_groupRoutes hr]; exact Bool.false_ne_true) nofun, hmethod, hpath⟩
  have hall : "POST" = method → path ≠ "/groups/" := fun hmethod hpath =>
    hnone (List.mem_cons_self ..) hmethod _ (matchPath?_constant_iff.mpr ⟨hpath, rfl⟩)
  have hlist : "GET" = method → path ≠ "/groups/" := fun hmethod hpath =>
    hnone (List.mem_cons_of_mem _ (List.mem_cons_self ..)) hmethod _
      (matchPath?_constant_iff.mpr ⟨hpath, rfl⟩)
  have hone : ∀ {raw}, method = "GET" ∨ method = "DELETE" → ¬ Single path raw := by
    intro raw hmethod hsingle
    have hpath := matchPath?_group_iff.mpr ⟨raw, hsingle, rfl⟩
    rcases hmethod with rfl | rfl
    · exact hnone (r := groupRoutes[2]) (List.getElem_mem _) rfl _ hpath
    · exact hnone (r := groupRoutes[3]) (List.getElem_mem _) rfl _ hpath
  intro hreplies
  cases hreplies with
  | created hmethod hpath => exact hall hmethod.symm hpath
  | undecodable hmethod hpath => exact hall hmethod.symm hpath
  | listed hmethod hpath => exact hlist hmethod.symm hpath
  | found hmethod hpath => exact hone (Or.inl hmethod) hpath
  | removed hmethod hpath => exact hone (Or.inr hmethod) hpath
  | missing hmethod hpath => exact hone hmethod hpath
  | unreadable hmethod hpath => exact hone hmethod hpath

/-! ## Callbacks -/

section

variable {q : Http.Request} {inner : List (Prog.Action State Job)} {outcome : Outcome Http.Response}
  {s s' : State} {l : Ledger}

/-- The reply that an outcome is mapped to is one of the rules, and the groups represent what the rule makes
    of the ledger. -/
def RepliesWith (l : Ledger) (q : Http.Request) (outcome : Outcome Http.Response) (s' : State) : Prop :=
  ∃ l', l.Replies q.method q.target.path q.body (Filter.replyTo mapping outcome) l' ∧
    Represents s'.groups l'

/-- **Creating a group** replies by the rules. -/
theorem replies_createGroup (h : Represents s.groups l) (hmethod : q.method = "POST")
    (hpath : q.target.path = "/groups/")
    (hfew : (createShape.read q.body).isOk → l.created + 1 < 2 ^ 64)
    (hrun : Prog.Run (createGroup State.groupsAccess q) inner (some outcome))
    (hthreads : Prog.Threads s inner s') : RepliesWith l q outcome s' := by
  rw [createGroup] at hrun
  cases hname : readName q.body with
  | error e =>
    rw [hname] at hrun
    obtain ⟨rfl, rfl⟩ := Prog.run_over hrun hthreads
    obtain ⟨f, hread, rfl⟩ := readName_eq_error_iff.mp hname
    exact ⟨l, .undecodable hmethod hpath hread, h⟩
  | ok name =>
    rw [hname] at hrun
    have hread := readName_eq_ok_iff.mp hname
    obtain ⟨rfl, rfl⟩ := Prog.run_update hrun hthreads
    obtain ⟨hid, hafter⟩ := h.create (hfew (hread ▸ rfl)) name
    have hreply := Ledger.Replies.created (l := l) hmethod hpath hread
    rw [← hid] at hreply
    exact ⟨l.add name, hreply, hafter⟩

/-- **Listing the groups** does. -/
theorem replies_listGroups (h : Represents s.groups l) (hmethod : q.method = "GET")
    (hpath : q.target.path = "/groups/")
    (hrun : Prog.Run (listGroups State.groupsAccess q) inner (some outcome))
    (hthreads : Prog.Threads s inner s') : RepliesWith l q outcome s' := by
  obtain ⟨rfl, rfl⟩ := Prog.run_update hrun hthreads
  have hreply : l.Replies q.method q.target.path q.body (.json 200 (.array (l.listing.map entryJson))) l :=
    .listed hmethod hpath
  rw [← h.live, List.map_map] at hreply
  exact ⟨l, hreply, h⟩

/-- A callback for one group replies by the rules if it does once the number is read. -/
theorem replies_onGroup {raw : String} {act : GroupId → Flow State Empty Empty (Outcome Http.Response)}
    (h : Represents s.groups l) (hmethod : q.method = "GET" ∨ q.method = "DELETE")
    (hpath : Single q.target.path raw) (hparam : q.param? "id" = some raw)
    (hact : ∀ id : GroupId, Number.Spells raw id.toNat → Prog.Run (act id) inner (some outcome) →
      RepliesWith l q outcome s')
    (hrun : Prog.Run (onGroup act q) inner (some outcome)) (hthreads : Prog.Threads s inner s') :
    RepliesWith l q outcome s' := by
  simp only [onGroup, hparam, Option.getD_some] at hrun
  cases hid : readId raw with
  | none =>
    rw [hid] at hrun
    obtain ⟨rfl, rfl⟩ := Prog.run_over hrun hthreads
    exact ⟨l, .unreadable hmethod hpath (readId_eq_none_iff.mp hid), h⟩
  | some id =>
    rw [hid] at hrun
    exact hact id (readId_eq_some_iff.mp hid) hrun

/-- **Showing a group** does, whether or not it is there. -/
theorem replies_showGroup {raw : String} (h : Represents s.groups l) (hmethod : q.method = "GET")
    (hpath : Single q.target.path raw) (hparam : q.param? "id" = some raw)
    (hrun : Prog.Run (showGroup State.groupsAccess q) inner (some outcome))
    (hthreads : Prog.Threads s inner s') : RepliesWith l q outcome s' := by
  refine replies_onGroup h (Or.inl hmethod) hpath hparam (fun id hspells hrun => ?_) hrun hthreads
  obtain ⟨acts, hlook, hrest⟩ := Prog.run_step hrun hthreads
  have hname : (State.groupsAccess.get s).name? id = l.name? id.toNat := h.name?_eq id
  simp only [Prog.done_bind, hname] at hlook
  cases hlive : l.name? id.toNat with
  | none =>
    rw [hlive] at hlook
    obtain ⟨rfl, rfl⟩ := Prog.run_over hlook hrest
    exact ⟨l, .missing (Or.inl hmethod) hpath hspells id.toNat_lt hlive, h⟩
  | some name =>
    rw [hlive] at hlook
    obtain ⟨rfl, rfl⟩ := Prog.run_over hlook hrest
    exact ⟨l, .found hmethod hpath hspells hlive, h⟩

/-- **Removing a group** does, whether or not it is there. -/
theorem replies_removeGroup {raw : String} (h : Represents s.groups l) (hmethod : q.method = "DELETE")
    (hpath : Single q.target.path raw) (hparam : q.param? "id" = some raw)
    (hrun : Prog.Run (removeGroup State.groupsAccess q) inner (some outcome))
    (hthreads : Prog.Threads s inner s') : RepliesWith l q outcome s' := by
  refine replies_onGroup h (Or.inr hmethod) hpath hparam (fun id hspells hrun => ?_) hrun hthreads
  obtain ⟨rfl, rfl⟩ := Prog.run_update hrun hthreads
  have hafter : Represents (s.groups.erase id) (l.remove id.toNat) := h.erase id
  have hcontains : s.groups.contains id = (l.name? id.toNat).isSome := h.contains_eq id
  show RepliesWith l q (if s.groups.contains id then _ else _) _
  rw [hcontains]
  cases hlive : l.name? id.toNat with
  | none =>
    rw [Ledger.remove_eq_self hlive] at hafter
    exact ⟨l, .missing (Or.inr hmethod) hpath hspells id.toNat_lt hlive, hafter⟩
  | some name => exact ⟨l.remove id.toNat, .removed hmethod hpath hspells hlive, hafter⟩

/-- **The callback of a route of the groups replies by the rules.** -/
theorem replies_of_run {r : Route State} (hr : r ∈ groupRoutes) {i : Interface} {params : Params}
    (hanswers : r.Answers i q.method q.target.path params) (hparams : q.params? = some params)
    (h : Represents s.groups l)
    (hfew : q.method = "POST" → q.target.path = "/groups/" → (createShape.read q.body).isOk →
      l.created + 1 < 2 ^ 64)
    (hrun : Prog.Run (r.callback q) inner (some outcome)) (hthreads : Prog.Threads s inner s') :
    RepliesWith l q outcome s' := by
  have hcalled := calledFor_of_answers hr hanswers
  -- the word that a single group is named by is the one that was bound
  have hparam : ∀ {raw : String}, params = ⟨[("id", raw)]⟩ → q.param? "id" = some raw := by
    rintro raw rfl
    rw [Http.Request.param?, hparams]
    rfl
  generalize r.callback = callback at hcalled hrun
  cases hcalled with
  | create hmethod hpath => exact replies_createGroup h hmethod hpath (hfew hmethod hpath) hrun hthreads
  | list hmethod hpath => exact replies_listGroups h hmethod hpath hrun hthreads
  | one hmethod hpath => exact replies_showGroup h hmethod hpath (hparam rfl) hrun hthreads
  | remove hmethod hpath => exact replies_removeGroup h hmethod hpath (hparam rfl) hrun hthreads

end

end App
end Switchyard
