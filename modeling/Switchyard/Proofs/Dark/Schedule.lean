import Switchyard.Program.Machine
import Switchyard.Proofs.Dark.Traffic

/-!
  Dark calls on a machine.

  The statements about traffic are about interleavings of any kind.  A machine runs jobs by rules of its own:
  when the main program waits, in the order in which they were started, each as far as it can go.  That is one
  interleaving among the others, and this is what is shown here.

  1. **Programs.**  A program starts jobs only by issuing dark calls (`Prog.Issues`), and so does a chain of
     filters that do (`issues_compose`).

  2. **Jobs.**  The job of a call is what is left to do of the call (`Tracked.job?`).  Where the machine lets it go on
     until it waits, the call has taken some of its turns (`advance_turns`).

  3. **Machines.**  A machine shows some traffic if its record is the record of the traffic and its jobs are those
     of the calls under way (`Shows`).  Settling, time that passes, and every action of such a program lead it to
     other traffic by moves (`Leads`).

  So a run of such a program is an interleaving (`leads_run`), and what holds after any interleaving holds of the
  machine.
-/

namespace Switchyard

/-! ## Programs that issue dark calls -/

namespace Prog

variable {σ Q A Q' A' α β : Type} {filters : List DarkId}

/-- The program starts jobs only by issuing calls of these filters, and counts no dark call otherwise. -/
inductive Issues (filters : List DarkId) : Flow σ Q A α → Prop where
  | done (a : α) : Issues filters (.done a)
  | halt : Issues filters .halt
  | step {u k} (h : ∀ s, Issues filters (k s)) : Issues filters (.step u k)
  | note {o k} (ho : o.isDark = false) (h : Issues filters k) : Issues filters (.note o k)
  | lookBack {k} (h : ∀ past, Issues filters (k past)) : Issues filters (.lookBack k)
  | wait {ms k} (h : Issues filters k) : Issues filters (.wait ms k)
  | ask {q k} (h : ∀ a, Issues filters (k a)) : Issues filters (.ask q k)
  | issue {k} (c : Dark.Call) (hfilter : c.filter ∈ filters) (hquiet : c.Quiet) (h : Issues filters k) :
      Issues filters
        (.note (.darkIssued c.filter) (.note (.metric .darkIssued) (.launch (c.job c.bounded) k)))

/-- Programs one after the other only issue calls of these filters if each of them does. -/
theorem Issues.bind {p : Flow σ Q A α} (h : Issues filters p) {f : α → Flow σ Q A β}
    (hf : ∀ a, Issues filters (f a)) : Issues filters (p.bind f) := by
  induction h with
  | done a => exact hf a
  | halt => exact .halt
  | step _ ih => exact .step ih
  | note ho _ ih => exact .note ho ih
  | lookBack _ ih => exact .lookBack ih
  | wait _ ih => exact .wait ih
  | ask _ ih => exact .ask ih
  | issue c hfilter hquiet _ ih => exact .issue c hfilter hquiet ih

/-- So does a program with such programs in place of its questions. -/
theorem Issues.answer {p : Flow σ Q A α} (h : Issues filters p) {g : Q → Flow σ Q' A' A}
    (hg : ∀ q, Issues filters (g q)) : Issues filters (p.answer g) := by
  induction h with
  | done a => exact .done a
  | halt => exact .halt
  | step _ ih => exact .step ih
  | note ho _ ih => exact .note ho ih
  | lookBack _ ih => exact .lookBack ih
  | wait _ ih => exact .wait ih
  | ask _ ih => exact (hg _).bind ih
  | issue c hfilter hquiet _ ih => exact .issue c hfilter hquiet ih

end Prog

namespace Dark

section Filters

variable {σ Req Rep : Type} {filters : List DarkId}

/-- The filter is a dark traffic filter, or one that issues dark calls in some other way or none at all. -/
inductive Issuing (filters : List DarkId) : Filter σ Req Rep → Prop where
  | dark (s : Settings σ Req) (copy : Req → Req) (hs : s.id ∈ filters)
      (hquiet : ∀ req, (Call.mk s (copy req)).Quiet) : Issuing filters (s.filter copy)
  | other {f} (h : ∀ req, (f req).Issues filters) : Issuing filters f

theorem Issuing.issues {f : Filter σ Req Rep} (h : Issuing filters f) (req : Req) :
    (f req).Issues filters := by
  cases h with
  | other h => exact h req
  | dark s copy hs hquiet =>
    have hissue : Prog.Issues filters (s.issue (copy req) : Flow σ Req (Outcome Rep) Unit) := by
      show Prog.Issues filters (.note (.darkIssued s.id) (.note (.metric .darkIssued)
        (.launch ⟨s.id, s.dark (copy req)⟩ (.done ()))))
      rw [← Call.job_bounded (.mk s (copy req))]
      exact .issue (.mk s (copy req)) hs (hquiet req) (.done ())
    have hcall : Prog.Issues filters (Prog.call req : Flow σ Req (Outcome Rep) (Outcome Rep)) :=
      .ask .done
    have hsampled : Prog.Issues filters (s.sampler.accepts req : Flow σ Req (Outcome Rep) Bool) := by
      cases s.sampler with
      | when accept => exact .done _
      | drawn accept => exact .step fun _ => .done _
    refine hsampled.bind fun sampled => ?_
    cases sampled with
    | false => exact hcall
    | true =>
      show Prog.Issues filters (if s.afterService then _ else _)
      split
      · exact hcall.bind fun outcome => hissue.bind fun _ => .done outcome
      · exact hissue.bind fun _ => hcall

/-- A request that goes through such filters is a program that issues dark calls. -/
theorem issues_compose {chain : Chain σ Req Rep} {terminal : Handler σ Req Rep}
    (hchain : ∀ f ∈ chain, Issuing filters f) (hterminal : ∀ req, (terminal req).Issues filters)
    (req : Req) : (chain.compose terminal req).Issues filters := by
  induction chain generalizing req with
  | nil => exact hterminal req
  | cons f chain ih =>
    obtain ⟨hf, hrest⟩ := List.forall_mem_cons.mp hchain
    exact (hf.issues req).answer (ih hrest)

end Filters

/-! ## A job under way -/

/-- A job that has only entries left to leave leaves them and is over. -/
theorem advance_observeAll (os past : List Observation) :
    (Prog.observeAll os : Background Unit).advance past = (.over, os.reverse ++ past) := by
  induction os generalizing past with
  | nil => rfl
  | cons o os ih =>
    show (Prog.observeAll os : Background Unit).advance (o :: past) = _
    rw [ih, List.reverse_cons, List.append_assoc]
    rfl

/-- What is left of a job of a filter. -/
def restJob? (f : DarkId) : Rest → Option Job
  | .over => none
  | .asleep _ body => some ⟨f, body⟩

namespace Traffic

variable {filters : List DarkId} {record : List Observation} {before after : List Tracked}

/-- A call is brought on by turns to where its job is left: the record holds this then, and this is left of
    the job. -/
def BroughtTo (t : Traffic) (before after : List Tracked) (f : DarkId) (left : Rest × List Observation) :
    Prop :=
  ∃ (n : Nat) (m' : Tracked), t.run (List.replicate n (.turn before.length)) =
    ⟨left.2.reverse, before ++ m' :: after⟩ ∧ m'.job? = restJob? f left.1

/-- **As far as a job gets in one go, its call is brought on by turns.** -/
theorem advance_turns {c : Call} {acts : List (Prog.Action Unit Empty)}
    {rest : Background (Option (Except Error Unit))} (hends : rest.Ends) :
    BroughtTo ⟨record, before ++ ⟨c, .live acts rest⟩ :: after⟩ before after c.filter
      ((c.job rest).body.advance record.reverse) := by
  -- the first turn, and then those that bring on what is left
  have hturn : ∀ {acts rest record record' act rest' left},
      Prog.act record.reverse rest = some (act, rest') → record ++ act.entries = record' →
      BroughtTo ⟨record', before ++ ⟨c, .live (acts ++ [act]) rest'⟩ :: after⟩ before after c.filter left →
      BroughtTo ⟨record, before ++ ⟨c, .live acts rest⟩ :: after⟩ before after c.filter left := by
    intro acts rest record record' act rest' left hact hrecord
    rintro ⟨n, m', hrun, hjob⟩
    refine ⟨n + 1, m', ?_, hjob⟩
    rw [List.replicate_succ, run, List.foldl_cons, move_turn, ← run, ← hrun, ← hrecord]
    simp only [Tracked.turn, hact]
  induction rest generalizing record acts with
  | done result =>
    have hadvance : (c.job (.done result)).body.advance record.reverse =
        (.over, (c.ending result).reverse ++ record.reverse) := advance_observeAll _ _
    refine ⟨1, ⟨c, .ended acts (c.outcome result)⟩, ?_, ?_⟩
    · rw [hadvance, List.replicate_one, run, List.foldl_cons, List.foldl_nil, move_turn,
        ← List.reverse_append, List.reverse_reverse]
      rfl
    · rw [hadvance]
      rfl
  | halt => exact hends.elim
  | step u k ih => exact hturn rfl (List.append_nil _) (ih () (hends ()))
  | note o k ih =>
    have hleft := @ih (record ++ [o]) (acts ++ [.noted o]) hends
    rw [List.reverse_append] at hleft
    exact hturn rfl rfl hleft
  | lookBack k ih => exact hturn rfl (List.append_nil _) (ih record.reverse (hends record.reverse))
  | wait ms k ih =>
    refine hturn rfl (List.append_nil _) ?_
    have hadvance : (c.job (.wait ms k)).body.advance record.reverse =
        if ms = 0 then (c.job k).body.advance record.reverse
        else (.asleep ms (c.job k).body, record.reverse) := rfl
    rw [hadvance]
    split
    · exact ih hends
    · refine ⟨0, ⟨c, .live (acts ++ [.waited ms]) k⟩, ?_, ?_⟩
      · rw [List.reverse_reverse]
        rfl
      · rfl
  | launch j k => exact j.elim
  | ask q k => exact q.elim

/-! ## A machine -/

/-- The machine shows the traffic: it has the same record, and its jobs are those of the calls under way. -/
structure Shows {σ : Type} (m : Machine σ) (t : Traffic) : Prop where
  record : m.record = t.record
  jobs : (m.jobs.map Pending.job).Perm (t.calls.filterMap Tracked.job?)

/-- Moves lead from the traffic to what the machine shows. -/
def Leads {σ : Type} (filters : List DarkId) (t : Traffic) (m : Machine σ) : Prop :=
  ∃ moves, (∀ mv ∈ moves, mv.Allowed filters) ∧ Shows m (t.run moves)

variable {σ Q A α : Type} {t : Traffic} {m : Machine σ}

/-- A machine that shows the traffic as it is leads to it. -/
theorem Leads.of_shows (h : Shows m t) : Leads filters t m :=
  ⟨[], (fun _ h => nomatch h), h⟩

/-- What is led to from later on is led to from before. -/
theorem Leads.of_run {moves : List Move} (hmoves : ∀ mv ∈ moves, mv.Allowed filters)
    (h : Leads filters (t.run moves) m) : Leads filters t m := by
  obtain ⟨later, hlater, hshows⟩ := h
  refine ⟨moves ++ later, List.forall_mem_append.mpr ⟨hmoves, hlater⟩, ?_⟩
  rw [run, List.foldl_append]
  exact hshows

/-- One job in the middle for another. -/
theorem perm_rest {β : Type} {x : β} {l r l' r' : List β} (h : (l ++ x :: r).Perm (l' ++ x :: r')) :
    (l ++ r).Perm (l' ++ r') :=
  (List.perm_cons x).mp (List.perm_middle.symm.trans (h.trans List.perm_middle))

/-- **Letting jobs act is moves of their calls**, by induction on the jobs that have not acted yet. -/
theorem leads_settleFrom (h : t.Kept filters) {pending : List Pending} (hrecord : m.record = t.record)
    (hjobs : ((m.jobs ++ pending).map Pending.job).Perm (t.calls.filterMap Tracked.job?)) :
    Leads filters t (m.settleFrom pending) := by
  induction pending generalizing m t with
  | nil =>
    rw [List.append_nil] at hjobs
    exact .of_shows ⟨hrecord, hjobs⟩
  | cons p pending ih =>
    rw [Machine.settleFrom]
    by_cases hdue : p.due = 0
    · rw [if_pos hdue]
      -- the call whose job this is
      have hmem : p.job ∈ t.calls.filterMap Tracked.job? := hjobs.mem_iff.mp (by simp)
      obtain ⟨⟨c, progress⟩, hcall, hjob⟩ := List.mem_filterMap.mp hmem
      cases progress with
      | ended acts outcome => nomatch hjob
      | live acts rest =>
        obtain hjob : c.job rest = p.job := Option.some.inj hjob
        obtain ⟨-, hends, -⟩ := h.right _ hcall
        obtain ⟨record, calls⟩ := t
        obtain ⟨before, after, rfl⟩ := List.append_of_mem hcall
        have hbrought : BroughtTo ⟨record, before ++ ⟨c, .live acts rest⟩ :: after⟩ before after c.filter
            ((c.job rest).body.advance record.reverse) := advance_turns hends
        have hpast : m.past = record.reverse := List.reverse_eq_iff.mp hrecord
        rw [hjob, ← hpast] at hbrought
        obtain ⟨n, m', hrun, hleft⟩ := hbrought
        have hturns : ∀ mv ∈ List.replicate n (Move.turn before.length), mv.Allowed filters :=
          fun mv hmv => List.eq_of_mem_replicate hmv ▸ trivial
        -- the other jobs are those of the other calls
        have hothers : (m.jobs.map Pending.job ++ pending.map Pending.job).Perm
            (before.filterMap Tracked.job? ++ after.filterMap Tracked.job?) := by
          have hthis : Tracked.job? ⟨c, .live acts rest⟩ = some p.job := congrArg some hjob
          rw [List.map_append, List.map_cons, List.filterMap_append, List.filterMap_cons_some hthis] at hjobs
          exact perm_rest hjobs
        have hkept := h.run hturns
        rw [hrun] at hkept
        refine .of_run hturns ?_
        rw [hrun]
        cases hadvance : p.job.body.advance m.past with
        | mk left past =>
        rw [hadvance] at hleft hkept
        match left, hleft, hkept with
        | .over, hleft, hkept =>
          refine ih hkept rfl ?_
          rw [List.map_append, List.filterMap_append, List.filterMap_cons_none hleft]
          exact hothers
        | .asleep ms body, hleft, hkept =>
          refine ih hkept rfl ?_
          have hfilter : c.filter = p.job.filter := congrArg Job.filter hjob
          rw [hfilter] at hleft
          rw [List.append_assoc, List.map_append, List.filterMap_append, List.filterMap_cons_some hleft]
          exact List.perm_middle.trans ((hothers.cons _).trans List.perm_middle.symm)
    · rw [if_neg hdue]
      refine ih h hrecord ?_
      rw [List.append_assoc]
      exact hjobs

/-- **Settling** is a number of steps of calls that are under way. -/
theorem leads_settle (h : t.Kept filters) (hshows : Shows m t) : Leads filters t m.settle :=
  leads_settleFrom h hshows.record hshows.jobs

/-- Time that passes is no step. -/
theorem Shows.tick (h : Shows m t) : Shows m.tick t where
  record := h.record
  jobs := by
    show ((m.jobs.map _).map Pending.job).Perm _
    rw [List.map_map]
    exact h.jobs

/-- What is led to step by step is led to. -/
theorem Leads.andThen {m' : Machine σ} (h : t.Kept filters) (hm : Leads filters t m)
    (hm' : ∀ {t' : Traffic}, t'.Kept filters → Shows m t' → Leads filters t' m') :
    Leads filters t m' := by
  obtain ⟨moves, hmoves, hshows⟩ := hm
  exact .of_run hmoves (hm' (h.run hmoves) hshows)

/-- **And so is letting time pass**, millisecond after millisecond. -/
theorem leads_pass (h : t.Kept filters) (hshows : Shows m t) (ms : Nat) :
    Leads filters t (m.pass ms) := by
  induction ms generalizing m t with
  | zero => exact leads_settle h hshows
  | succ ms ih => exact (leads_settle h hshows).andThen h fun h' hshows' => ih h' hshows'.tick

/-- **What a program that issues dark calls does on a machine is an interleaving of their turns.** -/
theorem leads_run {p : Flow σ Empty Empty α} (hp : p.Issues filters) (h : t.Kept filters)
    (hshows : Shows m t) : Leads filters t (Machine.run p m).2 := by
  induction hp generalizing m t with
  | done a => exact .of_shows hshows
  | halt => exact .of_shows hshows
  | step _ ih => exact ih _ h ⟨hshows.record, hshows.jobs⟩
  | lookBack _ ih => exact ih _ h hshows
  | wait _ ih => exact (leads_pass h hshows _).andThen h ih
  | @ask q k _ _ => exact q.elim
  | @note o k ho _ ih =>
    have hmove : ∀ mv ∈ [Move.other o], mv.Allowed filters := List.forall_mem_singleton.mpr ho
    refine .of_run hmove (ih (h.run hmove) ⟨?_, hshows.jobs⟩)
    show (o :: m.past).reverse = t.record ++ [o]
    rw [List.reverse_cons, ← hshows.record]
    rfl
  | @issue k c hfilter hquiet _ ih =>
    have hissue : (Move.issue c).Allowed filters := ⟨hfilter, hquiet⟩
    have hmove : ∀ mv ∈ [Move.issue c], mv.Allowed filters := List.forall_mem_singleton.mpr hissue
    refine .of_run hmove (ih (h.run hmove) ⟨?_, ?_⟩)
    · show (_ :: _ :: m.past).reverse = t.record ++ c.beginning
      rw [List.reverse_cons, List.reverse_cons, List.append_assoc, ← hshows.record]
      rfl
    · show ((m.jobs ++ [Pending.mk 0 (c.job c.bounded)]).map Pending.job).Perm
        ((t.calls ++ [Tracked.start c]).filterMap Tracked.job?)
      rw [List.map_append, List.filterMap_append]
      exact hshows.jobs.append_right _

end Traffic
end Dark
end Switchyard
