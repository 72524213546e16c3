import Mathlib.Data.List.Perm.Basic
import Switchyard.Dark.Basic
import Switchyard.Proofs.Program.Bounded

/-!
  Dark calls that are under way at the same time.

  A filter that issues a call leaves two entries; then the call goes on by itself, one action of its client
  after the other, and leaves two more entries when it is over (`Call`, `Tracked.turn`).  Between the steps
  of one call there may be any steps of any others, and anything else (`Move`, `Traffic.run`).

  1. **One call.**  What its client does within the time that it has is a run of the client with a bound, and
     tells how the call is to be judged: by the client's own value if that came in time, as timed out if it did
     not (`Judged`, `judged_of_run`).

  2. **The invariant.**  The entries of the record that keep count of dark calls are those of the calls, a call that
     is over was judged by what its client did, and a call that is not over has a run of its client behind it
     (`Traffic.Kept`).  A move preserves it (`Kept.move`), and so does a run of moves, by induction (`Kept.run`).

  3. **Going on for ever.**  A call that takes its turns again and again comes to its end, whatever its client does
     (`Kept.comesToEnd`): the bound on its time ends it.
-/

namespace Switchyard

/-- Does the entry keep count of dark calls? -/
def Observation.isDark : Observation → Bool
  | darkIssued _ | darkFinished .. | metric .darkIssued | metric (.darkFinished _) => true
  | _ => false

namespace Dark

/-! ## One call -/

/-- A call: a copy that a filter sends. -/
structure Call where
  {State Req : Type}
  settings : Settings State Req
  copy : Req

namespace Call

/-- The filter that issues the call. -/
def filter (c : Call) : DarkId := c.settings.id

/-- What the client does with the copy. -/
def sent (c : Call) : Background (Except Error Unit) := c.settings.client.send c.copy

/-- The milliseconds that the client has. -/
def limit (c : Call) : Nat := c.settings.timeoutMs

/-- What the client does within its time. -/
def bounded (c : Call) : Background (Option (Except Error Unit)) := c.sent.within c.limit

/-- How the call is counted. -/
def outcome (c : Call) (result : Option (Except Error Unit)) : DarkOutcome :=
  (c.settings.verdict result).1

/-- The entries that issuing the call leaves. -/
def beginning (c : Call) : List Observation := [.darkIssued c.filter, .metric .darkIssued]

/-- The entries that the call leaves once it is over. -/
def ending (c : Call) (result : Option (Except Error Unit)) : List Observation :=
  (c.settings.verdict result).2.map .event ++
    [.darkFinished c.filter (c.outcome result), .metric (.darkFinished (c.outcome result))]

/-- The job of the call when this is left for the client to do. -/
def job (c : Call) (rest : Background (Option (Except Error Unit))) : Job :=
  ⟨c.filter, rest.bind fun result => Prog.observeAll (c.ending result)⟩

/-- The job of a call that was just issued is that of its filter. -/
theorem job_bounded (c : Call) : c.job c.bounded = ⟨c.settings.id, c.settings.dark c.copy⟩ := rfl

/-- The client leaves the counting of dark calls alone. -/
def Quiet (c : Call) : Prop :=
  ∀ o, c.sent.Leaves (fun e _ => nomatch e) o → o.isDark = false

end Call

/-- How a call was counted, by what its client did: a success if it was over in time without an error, a
    timeout if it was late or reported one itself, a failure if it was over in time with another error. -/
structure Judged (c : Call) (acts : List (Prog.Action Unit Empty)) (outcome : DarkOutcome) : Prop where
  success : outcome = .success ↔ c.sent.InTime c.limit acts (.ok ())
  timeout : outcome = .timeout ↔
    c.sent.Late c.limit acts ∨ c.sent.InTime c.limit acts (.error .timeout)
  failure : outcome = .failure ↔ ∃ e, e ≠ .timeout ∧ c.sent.InTime c.limit acts (.error e)

theorem outcome_of_error (c : Call) {e : Error} (he : e ≠ .timeout) :
    c.outcome (some (.error e)) = .failure := by
  cases e with
  | timeout => exact absurd rfl he
  | invalidDestination d reason => rfl
  | request reason => rfl
  | unreachable reason => rfl
  | status s => rfl

/-- **A call is judged by what its client did.** -/
theorem judged_of_run {c : Call} {acts : List (Prog.Action Unit Empty)}
    {result : Option (Except Error Unit)} (h : Prog.Run c.bounded acts (some result)) :
    Judged c acts (c.outcome result) := by
  rcases Prog.inTime_or_late h with ⟨answer, rfl, hin⟩ | ⟨rfl, hlate⟩
  · have hnot := hin.not_late
    cases answer with
    | ok u =>
      refine ⟨iff_of_true rfl hin, iff_of_false nofun ?_, iff_of_false nofun ?_⟩
      · rintro (hlate | hin')
        · exact hnot hlate
        · nomatch hin.unique hin'
      · rintro ⟨e, -, hin'⟩
        nomatch hin.unique hin'
    | error e =>
      have hsame : ∀ {answer}, c.sent.InTime c.limit acts answer → answer = .error e :=
        fun hin' => hin'.unique hin
      by_cases he : e = .timeout
      · subst he
        refine ⟨iff_of_false nofun (fun hin' => nomatch hsame hin'), iff_of_true rfl (Or.inr hin),
          iff_of_false nofun ?_⟩
        rintro ⟨e, he, hin'⟩
        exact he (Except.error.inj (hsame hin'))
      · rw [outcome_of_error c he]
        refine ⟨iff_of_false nofun (fun hin' => nomatch hsame hin'), iff_of_false nofun ?_,
          iff_of_true rfl ⟨e, he, hin⟩⟩
        rintro (hlate | hin')
        · exact hnot hlate
        · exact he (Except.error.inj (hsame hin')).symm
  · have hnot : ∀ {answer}, ¬ c.sent.InTime c.limit acts answer := fun hin => hin.not_late hlate
    refine ⟨iff_of_false nofun hnot, iff_of_true rfl (Or.inl hlate), iff_of_false nofun ?_⟩
    rintro ⟨e, -, hin⟩
    exact hnot hin

/-! ## A call under way -/

/-- How far a call has come. -/
inductive Progress where
  /-- It is under way: its client has acted, and this is left for it to do. -/
  | live (acts : List (Prog.Action Unit Empty)) (rest : Background (Option (Except Error Unit)))
  /-- It is over, and was counted. -/
  | ended (acts : List (Prog.Action Unit Empty)) (outcome : DarkOutcome)

/-- A call that was issued, and how far it has come. -/
structure Tracked where
  call : Call
  progress : Progress

namespace Tracked

/-- A call that was just issued. -/
def start (c : Call) : Tracked := ⟨c, .live [] c.bounded⟩

/-- How the call was counted, if it is over. -/
def outcome? (m : Tracked) : Option DarkOutcome :=
  match m.progress with
  | .live .. => none
  | .ended _ outcome => some outcome

/-- The job of the call, if it is not over. -/
def job? (m : Tracked) : Option Job :=
  match m.progress with
  | .live _ rest => some (m.call.job rest)
  | .ended .. => none

/-- The entries that count the end of a call. -/
def counted (c : Call) (outcome : DarkOutcome) : List Observation :=
  [.darkFinished c.filter outcome, .metric (.darkFinished outcome)]

/-- The entries that the call has left to be counted. -/
def entries (m : Tracked) : List Observation :=
  m.call.beginning ++ (m.outcome?.map (counted m.call)).getD []

/-- The call takes a turn: its client acts, or what it came to is counted.  A turn comes with the entries
    that it leaves. -/
def turn (past : List Observation) (m : Tracked) : Tracked × List Observation :=
  match m.progress with
  | .ended .. => (m, [])
  | .live acts rest =>
    match rest.act past with
    | some (act, rest') => (⟨m.call, .live (acts ++ [act]) rest'⟩, act.entries)
    | none =>
      match rest with
      | .done result => (⟨m.call, .ended acts (m.call.outcome result)⟩, m.call.ending result)
      | _ => (m, [])

/-- What is known of a call: what is left for a client to do continues what it has done, ends, and leaves
    the counting alone; and a call that is over was judged by what its client did. -/
def Right (m : Tracked) : Prop :=
  match m.progress with
  | .live acts rest =>
    (∀ {later r}, Prog.Run rest later r → Prog.Run m.call.bounded (acts ++ later) r) ∧ rest.Ends ∧
      ∀ o, rest.Leaves (fun e _ => nomatch e) o → o.isDark = false
  | .ended acts outcome => Judged m.call acts outcome

/-- All that a turn can come to. -/
inductive Turned (past : List Observation) : Tracked → Tracked × List Observation → Prop where
  /-- The call was over before. -/
  | still {c acts outcome} : Turned past ⟨c, .ended acts outcome⟩ (⟨c, .ended acts outcome⟩, [])
  | acted {c acts rest act rest'} (h : rest.act past = some (act, rest')) :
      Turned past ⟨c, .live acts rest⟩ (⟨c, .live (acts ++ [act]) rest'⟩, act.entries)
  | finished {c acts result} :
      Turned past ⟨c, .live acts (.done result)⟩ (⟨c, .ended acts (c.outcome result)⟩, c.ending result)

theorem turned {m : Tracked} (hm : m.Right) (past : List Observation) : Turned past m (m.turn past) := by
  obtain ⟨c, progress⟩ := m
  cases progress with
  | ended acts outcome => exact .still
  | live acts rest =>
    obtain ⟨-, hends, -⟩ := hm
    cases rest with
    | done result => exact .finished
    | halt => exact hends.elim
    | step u k => exact @Turned.acted past c acts (.step u k) _ _ rfl
    | note o k => exact @Turned.acted past c acts (.note o k) _ _ rfl
    | lookBack k => exact @Turned.acted past c acts (.lookBack k) _ _ rfl
    | wait ms k => exact @Turned.acted past c acts (.wait ms k) _ _ rfl
    | launch j k => exact j.elim
    | ask q k => exact q.elim

theorem call_turn {m : Tracked} (hm : m.Right) (past : List Observation) :
    (m.turn past).1.call = m.call := by
  cases hturn : m.turn past with
  | mk m' os =>
  have hturned := turned hm past
  rw [hturn] at hturned
  cases hturned with
  | still => rfl
  | acted h => rfl
  | finished => rfl

/-- **A turn keeps what is known of a call.** -/
theorem right_turn {m : Tracked} (hm : m.Right) (past : List Observation) : (m.turn past).1.Right := by
  cases hturn : m.turn past with
  | mk m' os =>
  have hturned := turned hm past
  rw [hturn] at hturned
  cases hturned with
  | still => exact hm
  | @acted c acts rest act rest' h =>
    obtain ⟨hrun, hends, hleaves⟩ := hm
    have hbegins := Prog.begins_of_act h
    refine ⟨fun {later r} hlater => ?_, hbegins.ends hends, fun o ho => ?_⟩
    · have hall := hrun (hbegins.run hlater)
      rw [List.append_assoc]
      exact hall
    · exact hleaves o (hbegins.leaves (Or.inr ho))
  | @finished c acts result =>
    obtain ⟨hrun, -, -⟩ := hm
    have hover := hrun (.done result)
    rw [List.append_nil] at hover
    exact judged_of_run hover

/-- **A turn counts nothing, or it counts the end of the call.** -/
theorem counts_turn {m : Tracked} (hm : m.Right) (past : List Observation) :
    ((m.turn past).1.outcome? = m.outcome? ∧ (m.turn past).2.filter Observation.isDark = []) ∨
    ∃ outcome, m.outcome? = none ∧ (m.turn past).1.outcome? = some outcome ∧
      (m.turn past).2.filter Observation.isDark = counted m.call outcome := by
  cases hturn : m.turn past with
  | mk m' os =>
  have hturned := turned hm past
  rw [hturn] at hturned
  cases hturned with
  | still => exact Or.inl ⟨rfl, rfl⟩
  | @acted c acts rest act rest' h =>
    obtain ⟨-, -, hleaves⟩ := hm
    refine Or.inl ⟨rfl, List.filter_eq_nil_iff.mpr fun o ho => ?_⟩
    rw [hleaves o ((Prog.begins_of_act h).leaves (Or.inl ho))]
    exact Bool.false_ne_true
  | @finished c acts result =>
    have hevents : ((c.settings.verdict result).2.map Observation.event).filter Observation.isDark = [] := by
      refine List.filter_eq_nil_iff.mpr fun o ho => ?_
      obtain ⟨e, -, rfl⟩ := List.mem_map.mp ho
      exact Bool.false_ne_true
    refine Or.inr ⟨c.outcome result, rfl, rfl, ?_⟩
    show (c.ending result).filter Observation.isDark = counted c (c.outcome result)
    rw [Call.ending, List.filter_append, hevents]
    rfl

/-- What a turn adds to the entries of a call it leaves in the record. -/
theorem entries_turn {m : Tracked} (hm : m.Right) (past : List Observation) :
    (m.turn past).1.entries = m.entries ++ (m.turn past).2.filter Observation.isDark := by
  rw [entries, entries, call_turn hm]
  rcases counts_turn hm past with ⟨houtcome, hnone⟩ | ⟨outcome, hlive, hover, hcounted⟩
  · rw [houtcome, hnone, List.append_nil]
  · rw [hlive, hover, hcounted]
    rfl

end Tracked

/-! ## Any number of calls -/

/-- What has been recorded, and the calls that have been issued, in order. -/
structure Traffic where
  record : List Observation := []
  calls : List Tracked := []

/-- One step of what goes on. -/
inductive Move where
  /-- A filter issues a call. -/
  | issue (c : Call)
  /-- A call takes a turn. -/
  | turn (i : Nat)
  /-- Something else leaves an entry. -/
  | other (o : Observation)

/-- A move may be made: the filters are among those that there are, no client counts dark calls, and
    neither does anything else. -/
def Move.Allowed (filters : List DarkId) : Move → Prop
  | issue c => c.filter ∈ filters ∧ c.Quiet
  | turn _ => True
  | other o => o.isDark = false

namespace Traffic

/-- Make a move. -/
def move (t : Traffic) : Move → Traffic
  | .issue c => ⟨t.record ++ c.beginning, t.calls ++ [.start c]⟩
  | .turn i =>
    match t.calls[i]? with
    | none => t
    | some m => ⟨t.record ++ (m.turn t.record.reverse).2, t.calls.set i (m.turn t.record.reverse).1⟩
  | .other o => ⟨t.record ++ [o], t.calls⟩

/-- Moves in any order. -/
def run (t : Traffic) (moves : List Move) : Traffic := moves.foldl move t

theorem split_of_getElem? {calls : List Tracked} {i : Nat} {m : Tracked} (h : calls[i]? = some m) :
    ∃ before after, calls = before ++ m :: after ∧ before.length = i := by
  obtain ⟨hi, rfl⟩ := List.getElem?_eq_some_iff.mp h
  refine ⟨calls.take i, calls.drop (i + 1), ?_, List.length_take_of_le (Nat.le_of_lt hi)⟩
  rw [List.getElem_cons_drop, List.take_append_drop]

theorem move_turn_of_none {t : Traffic} {i : Nat} (h : t.calls[i]? = none) : t.move (.turn i) = t := by
  simp only [move, h]

/-- A turn leaves the calls before and after it as they are. -/
theorem move_turn {record : List Observation} {before after : List Tracked} (m : Tracked) :
    (Traffic.mk record (before ++ m :: after)).move (.turn before.length) =
      ⟨record ++ (m.turn record.reverse).2, before ++ (m.turn record.reverse).1 :: after⟩ := by
  have hget : (before ++ m :: after)[before.length]? = some m := by
    rw [List.getElem?_append_right (Nat.le_refl _), Nat.sub_self]
    rfl
  simp only [move, hget]
  rw [List.set_append_right _ _ (Nat.le_refl _), Nat.sub_self, List.set_cons_zero]

/-- The invariant of dark traffic. -/
structure Kept (filters : List DarkId) (t : Traffic) : Prop where
  filters : ∀ m ∈ t.calls, m.call.filter ∈ filters
  right : ∀ m ∈ t.calls, m.Right
  /-- The entries that keep count are those of the calls, in some order. -/
  entries : (t.record.filter Observation.isDark).Perm (t.calls.flatMap Tracked.entries)

variable {filters : List DarkId} {t : Traffic}

theorem kept_start : Kept filters {} where
  filters _ h := nomatch h
  right _ h := nomatch h
  entries := .nil

theorem right_start {c : Call} (hquiet : c.Quiet) : (Tracked.start c).Right :=
  ⟨id, Prog.ends_within c.limit c.sent, fun o ho => hquiet o (Prog.leaves_of_within ho)⟩

/-- A call's turn keeps the invariant; the calls before it and after it stay as they are. -/
theorem Kept.turn {record : List Observation} {before after : List Tracked} {m : Tracked}
    (h : Kept filters ⟨record, before ++ m :: after⟩) (past : List Observation) :
    Kept filters ⟨record ++ (m.turn past).2, before ++ (m.turn past).1 :: after⟩ := by
  have hm : m ∈ before ++ m :: after := List.mem_append_right _ List.mem_cons_self
  have hright := h.right m hm
  -- whatever holds of all calls holds of all after the turn if it holds of the call that took it
  have hall : ∀ {P : Tracked → Prop}, (∀ m' ∈ before ++ m :: after, P m') → P (m.turn past).1 →
      ∀ m' ∈ before ++ (m.turn past).1 :: after, P m' := by
    intro P hold hnew
    rw [List.forall_mem_append, List.forall_mem_cons] at hold ⊢
    exact ⟨hold.1, hnew, hold.2.2⟩
  refine ⟨hall h.filters ?_, hall h.right (Tracked.right_turn hright past), ?_⟩
  · rw [Tracked.call_turn hright]
    exact h.filters m hm
  · have hentries := h.entries
    simp only [List.flatMap_append, List.flatMap_cons, List.filter_append,
      Tracked.entries_turn hright] at hentries ⊢
    refine (hentries.append_right _).trans ?_
    simp only [List.append_assoc]
    exact (List.perm_append_comm.append_left _).append_left _

/-- **A move keeps the invariant.** -/
theorem Kept.move (h : t.Kept filters) {mv : Move} (hmv : mv.Allowed filters) :
    (t.move mv).Kept filters := by
  cases mv with
  | issue c =>
    obtain ⟨hfilter, hquiet⟩ := hmv
    refine ⟨?_, ?_, ?_⟩
    · exact List.forall_mem_append.mpr ⟨h.filters, List.forall_mem_singleton.mpr hfilter⟩
    · exact List.forall_mem_append.mpr ⟨h.right, List.forall_mem_singleton.mpr (right_start hquiet)⟩
    · show ((t.record ++ c.beginning).filter Observation.isDark).Perm
        ((t.calls ++ [Tracked.start c]).flatMap Tracked.entries)
      rw [List.filter_append, List.flatMap_append]
      exact h.entries.append (.refl c.beginning)
  | turn i =>
    cases hm : t.calls[i]? with
    | none =>
      rw [move_turn_of_none hm]
      exact h
    | some m =>
      obtain ⟨record, calls⟩ := t
      obtain ⟨before, after, rfl, rfl⟩ := split_of_getElem? hm
      rw [move_turn]
      exact h.turn record.reverse
  | other o =>
    refine ⟨h.filters, h.right, ?_⟩
    have hnone : [o].filter Observation.isDark = [] :=
      List.filter_cons_of_neg (Bool.eq_false_iff.mp hmv)
    show ((t.record ++ [o]).filter Observation.isDark).Perm (t.calls.flatMap Tracked.entries)
    rw [List.filter_append, hnone, List.append_nil]
    exact h.entries

/-- **The invariant of every interleaving**, by induction on the moves. -/
theorem Kept.run (h : t.Kept filters) {moves : List Move} (hmoves : ∀ mv ∈ moves, mv.Allowed filters) :
    (t.run moves).Kept filters := by
  induction moves generalizing t with
  | nil => exact h
  | cons mv moves ih =>
    obtain ⟨hmv, hrest⟩ := List.forall_mem_cons.mp hmoves
    exact ih (h.move hmv) hrest

/-! ## One call among the others -/

theorem getElem?_move_turn {i : Nat} {m : Tracked} (hm : t.calls[i]? = some m) :
    (t.move (.turn i)).calls[i]? = some (m.turn t.record.reverse).1 := by
  simp only [move, hm]
  exact List.getElem?_set_self (List.getElem?_eq_some_iff.mp hm).1

/-- Only its own turns bring a call on. -/
theorem getElem?_move_of_ne {i : Nat} {m : Tracked} (hm : t.calls[i]? = some m) {mv : Move}
    (hmv : mv ≠ .turn i) : (t.move mv).calls[i]? = some m := by
  cases mv with
  | issue c =>
    show (t.calls ++ _)[i]? = some m
    rw [List.getElem?_append_left (List.getElem?_eq_some_iff.mp hm).1, hm]
  | other o => exact hm
  | turn j =>
    have hij : j ≠ i := fun hij => hmv (congrArg Move.turn hij)
    cases hj : t.calls[j]? with
    | none =>
      rw [move_turn_of_none hj]
      exact hm
    | some m' =>
      simp only [move, hj]
      rw [List.getElem?_set_ne hij, hm]

/-- **A call that is over stays as it is**, whatever goes on. -/
theorem getElem?_run {i : Nat} {m : Tracked} (hm : t.calls[i]? = some m) {acts outcome}
    (hover : m.progress = .ended acts outcome) (moves : List Move) :
    (t.run moves).calls[i]? = some m := by
  induction moves generalizing t with
  | nil => exact hm
  | cons mv moves ih =>
    refine ih ?_
    by_cases hmv : mv = .turn i
    · rw [hmv, getElem?_move_turn hm, Tracked.turn, hover]
    · exact getElem?_move_of_ne hm hmv

/-! ## Going on for ever -/

/-- The call at this place takes a turn again and again. -/
def TakesTurns (moves : Nat → Move) (i : Nat) : Prop := ∀ n, ∃ k, n ≤ k ∧ moves k = .turn i

/-- At some point along the moves the call at this place is over. -/
def ComesToEnd (t : Traffic) (moves : Nat → Move) (i : Nat) (c : Call) : Prop :=
  ∃ n acts outcome, (t.run ((List.range n).map moves)).calls[i]? = some ⟨c, .ended acts outcome⟩

variable {moves : Nat → Move} {i : Nat} {c : Call}

theorem TakesTurns.later (h : TakesTurns moves i) : TakesTurns (fun n => moves (n + 1)) i := by
  intro n
  obtain ⟨k, hk, hturn⟩ := h (n + 1)
  obtain ⟨k, rfl⟩ : ∃ k', k = k' + 1 := ⟨k - 1, by omega⟩
  exact ⟨k, Nat.le_of_succ_le_succ hk, hturn⟩

theorem ComesToEnd.of_move (h : ComesToEnd (t.move (moves 0)) (fun n => moves (n + 1)) i c) :
    ComesToEnd t moves i c := by
  obtain ⟨n, acts, outcome, hrun⟩ := h
  refine ⟨n + 1, acts, outcome, ?_⟩
  rw [List.range_succ_eq_map, List.map_cons, List.map_map, run, List.foldl_cons]
  exact hrun

/-- **A call that goes on taking turns ends**, whatever goes on between them: by induction on what is left of
    its client, and on the moves before its next turn. -/
theorem Kept.comesToEnd {acts : List (Prog.Action Unit Empty)}
    {rest : Background (Option (Except Error Unit))} (h : t.Kept filters)
    (hm : t.calls[i]? = some ⟨c, .live acts rest⟩) (hmoves : ∀ n, (moves n).Allowed filters)
    (hturns : TakesTurns moves i) : ComesToEnd t moves i c := by
  have hacc := Prog.acc_act rest
  induction hacc generalizing t acts moves with
  | intro rest _ ih =>
  have hnow : ∀ {t : Traffic} {moves : Nat → Move}, t.Kept filters →
      t.calls[i]? = some ⟨c, .live acts rest⟩ → (∀ n, (moves n).Allowed filters) →
      TakesTurns moves i → moves 0 = .turn i → ComesToEnd t moves i c := by
    intro t moves h hm hmoves hturns hturn
    refine .of_move ?_
    have hnext : (t.move (moves 0)).calls[i]? = _ := hturn ▸ getElem?_move_turn hm
    have hturned := Tracked.turned (h.right _ (List.mem_of_getElem? hm)) t.record.reverse
    cases hturn : Tracked.turn t.record.reverse ⟨c, .live acts rest⟩ with
    | mk m' os =>
    rw [hturn] at hnext hturned
    cases hturned with
    | acted hact =>
      exact ih _ ⟨_, _, hact⟩ (h.move (hmoves 0)) hnext (fun n => hmoves (n + 1)) hturns.later
    | @finished _ _ result => exact ⟨0, acts, c.outcome result, hnext⟩
  obtain ⟨k, -, hk⟩ := hturns 0
  induction k generalizing t moves with
  | zero => exact hnow h hm hmoves hturns hk
  | succ k ihk =>
    by_cases hturn : moves 0 = .turn i
    · exact hnow h hm hmoves hturns hturn
    · have hsame := getElem?_move_of_ne hm hturn
      exact .of_move (ihk (h.move (hmoves 0)) hsame (fun n => hmoves (n + 1)) hturns.later hk)

end Traffic
end Dark
end Switchyard
