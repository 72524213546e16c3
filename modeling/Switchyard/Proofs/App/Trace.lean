import Switchyard.App.Router
import Switchyard.Proofs.Dark.Schedule
import Switchyard.Proofs.Program.Plain
import Switchyard.Proofs.Route.RequestIds

/-!
  What of a run is there to stay.

  Of the actions of a run some matter beyond what is written to logs and counters: those that change the
  state, those that start a job, and the entries that keep count of dark calls (`Prog.essence`).  A run
  leads the state from one value to another (`Prog.Threads`), and its essence does so alone
  (`threads_essence_iff`), so that nothing is lost by forgetting the rest.

  1. **Taking runs apart.**  A run of a program that is made of two is a run of the one and then a run of the
     other (`run_bind`), and a run of a single action is that action (`run_note`, `run_step`, `run_over`).

  2. **One filter at a time.**  For each filter of the application there is a statement of what a run through
     it comes to, in terms of a run of what stands behind it, and of what it adds to the essence: nothing
     (`run_mapFailures`, `run_logging`, `run_stats`), the giving out of an id if the request has none
     (`run_requestIds`, `Identified`), and the decision of the sampler with a dark call if it accepts
     (`run_dark`, `Dark.Settings.issuing`).

  3. **Coming to an end.**  None of these filters keeps a request from ending, or starts jobs other than dark
     calls (`Chain.tame_compose` for any chain of them).
-/

namespace Switchyard

namespace Prog

variable {σ δ α : Type}

/-- The action changes the state, starts a job, or counts a dark call. -/
def Action.matters : Action σ δ → Bool
  | changed .. | launched _ => true
  | noted o => o.isDark
  | lookedBack _ | waited _ => false

/-- The actions that matter, in order. -/
def essence (acts : List (Action σ δ)) : List (Action σ δ) := acts.filter Action.matters

/-- What matters of actions one after the other comes one after the other. -/
theorem essence_append (acts acts' : List (Action σ δ)) :
    essence (acts ++ acts') = essence acts ++ essence acts' := List.filter_append ..

/-- Entries that count no dark call do not matter. -/
theorem essence_noted {os : List Observation} (h : ∀ o ∈ os, o.isDark = false) :
    essence (os.map (.noted ·) : List (Action σ δ)) = [] := by
  refine List.filter_eq_nil_iff.mpr fun act hact => ?_
  obtain ⟨o, ho, rfl⟩ := List.mem_map.mp hact
  show ¬ o.isDark = true
  rw [h o ho]
  exact Bool.false_ne_true

/-- And the state goes through some state in between. -/
theorem threads_append_iff {s s' : σ} {acts acts' : List (Action σ δ)} :
    Threads s (acts ++ acts') s' ↔ ∃ s₁, Threads s acts s₁ ∧ Threads s₁ acts' s' := by
  induction acts generalizing s with
  | nil => exact ⟨fun h => ⟨s, rfl, h⟩, fun ⟨_, heq, h⟩ => heq ▸ h⟩
  | cons act acts ih =>
    cases act with
    | changed before after =>
      constructor
      · rintro ⟨hbefore, h⟩
        obtain ⟨s₁, hfirst, hsecond⟩ := ih.mp h
        exact ⟨s₁, ⟨hbefore, hfirst⟩, hsecond⟩
      · rintro ⟨s₁, ⟨hbefore, hfirst⟩, hsecond⟩
        exact ⟨hbefore, ih.mpr ⟨s₁, hfirst, hsecond⟩⟩
    | noted o => exact ih
    | lookedBack past => exact ih
    | launched job => exact ih
    | waited ms => exact ih

/-- Only what matters leads from one state to another. -/
theorem threads_essence_iff {s s' : σ} {acts : List (Action σ δ)} :
    Threads s (essence acts) s' ↔ Threads s acts s' := by
  induction acts generalizing s with
  | nil => exact Iff.rfl
  | cons act acts ih =>
    cases act with
    | changed before after => exact and_congr Iff.rfl ih
    | launched job => exact ih
    | lookedBack past => exact ih
    | waited ms => exact ih
    | noted o =>
      show Threads s ((Action.noted o :: acts).filter Action.matters) s' ↔ Threads s acts s'
      rw [List.filter_cons]
      split
      · exact ih
      · exact ih

/-- A run of a program that only leaves an entry that counts no dark call, and goes on. -/
theorem run_note {o : Observation} (ho : o.isDark = false) {p : Prog σ δ Empty Empty α}
    {acts : List (Action σ δ)} {a : α} (h : Run (.note o p) acts (some a)) :
    ∃ acts', Run p acts' (some a) ∧ essence acts = essence acts' := by
  rcases runs_note_iff.mp h with ⟨-, hnone⟩ | ⟨acts', hrun, rfl⟩
  · cases hnone
  · refine ⟨acts', hrun, List.filter_cons_of_neg ?_⟩
    show ¬ o.isDark = true
    rw [ho]
    exact Bool.false_ne_true

/-- A run of two programs in a row, both to their ends. -/
theorem run_bind {β : Type} {p : Prog σ δ Empty Empty α} {f : α → Prog σ δ Empty Empty β}
    {acts : List (Action σ δ)} {b : β} (h : Run (p.bind f) acts (some b)) :
    ∃ a first second, Run p first (some a) ∧ Run (f a) second (some b) ∧
      essence acts = essence first ++ essence second := by
  rcases runs_bind_iff.mp h with ⟨hnone, -⟩ | ⟨a, first, second, hp, hf, rfl⟩
  · cases hnone
  · exact ⟨a, first, second, hp, hf, essence_append ..⟩

/-- A run of a program that is over. -/
theorem run_done {a b : α} {acts : List (Action σ δ)} (h : Run (.done a : Prog σ δ Empty Empty α) acts (some b)) :
    b = a ∧ essence acts = [] := by
  obtain ⟨rfl, hnone | hsome⟩ := runs_done_iff.mp h
  · cases hnone
  · exact ⟨Option.some.inj hsome, rfl⟩

section

variable {s s' : σ} {acts : List (Action σ δ)}

/-- A change of the state finds the state as it is, and what comes after finds it changed. -/
theorem run_step {u : σ → σ} {k : σ → Prog σ δ Empty Empty α} {a : α} (h : Run (.step u k) acts (some a))
    (hthreads : Threads s acts s') : ∃ acts', Run (k s) acts' (some a) ∧ Threads (u s) acts' s' := by
  cases h with
  | step s₀ h =>
    obtain ⟨rfl, hrest⟩ := hthreads
    exact ⟨_, h, hrest⟩

/-- A program that is over leaves the state as it is. -/
theorem run_over {a b : α} (h : Run (.done a : Prog σ δ Empty Empty α) acts (some b))
    (hthreads : Threads s acts s') : b = a ∧ s' = s := by
  obtain ⟨rfl, hnone | hsome⟩ := runs_done_iff.mp h
  · cases hnone
  · exact ⟨Option.some.inj hsome, hthreads.symm⟩

/-- A change of the state that gives a value. -/
theorem run_update {u : σ → σ} {g : σ → α} {a : α}
    (h : Run (.step u fun s => .done (g s) : Prog σ δ Empty Empty α) acts (some a))
    (hthreads : Threads s acts s') : a = g s ∧ s' = u s := by
  obtain ⟨acts', hdone, hrest⟩ := run_step h hthreads
  exact run_over hdone hrest

end

end Prog

/-! ## Filters that add nothing -/

section

variable {σ Req Rep : Type}

/-- **Mapping failures** does nothing else that matters: what is behind it ran once, and a failure became
    a reply. -/
theorem run_mapFailures {resolver : Resolver Rep} {next : Handler σ Req Rep} {req : Req}
    {acts : List (Prog.Action σ Job)} {outcome : Outcome Rep}
    (h : Prog.Run ((Filter.mapFailures resolver).wrap next req) acts (some outcome)) :
    ∃ inner acts', Prog.Run (next req) acts' (some inner) ∧ outcome = .ok (Filter.replyTo resolver inner) ∧
      Prog.essence acts = Prog.essence acts' := by
  have hsettle : (Filter.settle resolver : Outcome Rep → Flow σ Empty Empty (Outcome Rep)) = _ :=
    funext (Filter.settle_eq resolver)
  rw [Filter.wrap_mapFailures, hsettle] at h
  obtain ⟨inner, first, hnext, rfl, houtcome⟩ := Prog.run_noted_iff.mp h
  have hnotes : ∀ o ∈ Filter.settlingNotes resolver inner, o.isDark = false := by
    intro o ho
    obtain ⟨e, rfl⟩ := Filter.event_of_mem_settlingNotes ho
    rfl
  refine ⟨inner, first, hnext, houtcome, ?_⟩
  rw [Prog.essence_append, Prog.essence_noted hnotes, List.append_nil]

/-- A run that only leaves entries that count no dark call once its outcome is there. -/
theorem run_observed {next : Handler σ Req Rep} {req : Req} {notes : Outcome Rep → List Observation}
    (hnotes : ∀ outcome, ∀ o ∈ notes outcome, o.isDark = false) {acts : List (Prog.Action σ Job)}
    {outcome : Outcome Rep}
    (h : Prog.Run ((next req).bind fun o => (Prog.observeAll (notes o)).bind fun _ => .done o) acts
      (some outcome)) :
    ∃ acts', Prog.Run (next req) acts' (some outcome) ∧ Prog.essence acts = Prog.essence acts' := by
  obtain ⟨inner, first, hnext, rfl, rfl⟩ := Prog.run_noted_iff.mp h
  refine ⟨first, hnext, ?_⟩
  rw [Prog.essence_append, Prog.essence_noted (hnotes outcome), List.append_nil]

end

namespace Route

variable {σ : Type} {next : Http.Handler σ} {req : Http.Request} {acts : List (Prog.Action σ Job)}
  {outcome : Outcome Http.Response}

/-- **Counting** lets a run of what is behind it pass. -/
theorem run_stats (h : Prog.Run (stats.wrap next req) acts (some outcome)) :
    ∃ acts', Prog.Run (next req) acts' (some outcome) ∧ Prog.essence acts = Prog.essence acts' := by
  rw [wrap_stats] at h
  refine run_observed (fun o entry hentry => ?_) h
  rcases List.mem_cons.mp hentry with rfl | hentry
  · rfl
  · obtain rfl := List.mem_singleton.mp hentry
    rfl

/-- What is noted of a request once its outcome is there. -/
def loggingNotes (req : Http.Request) (outcome : Outcome Http.Response) : List Observation :=
  let about : List (String × FieldValue) :=
    [("request_id", .text (req.requestId?.getD "unknown")), ("method", .text req.method),
     ("path", .text req.target.path)]
  match outcome with
  | .ok rep => [.event ⟨.info, "Request completed", about ++ [("status", .count rep.status)]⟩]
  | .error f => [.event ⟨.warn, "Request failed", about ++ [("error", .text f.text)]⟩]

/-- Access logging leaves an event after the outcome, and the outcome as it is. -/
theorem wrap_logging (next : Http.Handler σ) (req : Http.Request) :
    logging.wrap next req
      = (next req).bind fun o => (Prog.observeAll (loggingNotes req o)).bind fun _ => .done o := by
  show Prog.bind (next req) _ = _
  refine congrArg (Prog.bind _) (funext fun o => ?_)
  cases o with
  | ok rep => rfl
  | error f => rfl

/-- **Access logging** lets a run of what is behind it pass. -/
theorem run_logging (h : Prog.Run (logging.wrap next req) acts (some outcome)) :
    ∃ acts', Prog.Run (next req) acts' (some outcome) ∧ Prog.essence acts = Prog.essence acts' := by
  rw [wrap_logging] at h
  refine run_observed (fun o entry hentry => ?_) h
  cases o with
  | ok rep =>
    obtain rfl := List.mem_singleton.mp hentry
    rfl
  | error f =>
    obtain rfl := List.mem_singleton.mp hentry
    rfl

/-! ## Request ids -/

/-- **With request ids** in front, what is behind ran once with the request that was identified, and its
    reply has got the id. -/
theorem run_requestIds {fresh : σ → String × σ}
    (h : Prog.Run ((requestIds fresh).wrap next req) acts (some outcome)) :
    ∃ first id req' inner acts', Identified fresh req first id req' ∧
      Prog.Run (next req') acts' (some inner) ∧ outcome = repeatId id inner ∧
      Prog.essence acts = first ++ Prog.essence acts' := by
  obtain ⟨first, id, req', inner, acts', hid, hnext, houtcome, rfl⟩ := run_requestIds_iff.mp h
  refine ⟨first, id, req', inner, acts', hid, hnext, houtcome, ?_⟩
  -- giving out an id changes the state, which matters
  cases hid with
  | own hid => rfl
  | fresh s hid => rfl

end Route

/-! ## Dark traffic -/

namespace Dark.Settings

variable {σ Req Rep : Type} (s : Settings σ Req)

/-- What issuing a dark call consists of. -/
def issuing (copy : Req) : List (Prog.Action σ Job) :=
  [.noted (.darkIssued s.id), .noted (.metric .darkIssued), .launched ⟨s.id, s.dark copy⟩]

/-- What a request adds on its way through the filter, before what stands behind it and after that. -/
def around (sampled : Bool) (copy : Req) : List (Prog.Action σ Job) × List (Prog.Action σ Job) :=
  match sampled, s.afterService with
  | false, _ => ([], [])
  | true, true => ([], s.issuing copy)
  | true, false => (s.issuing copy, [])

/-- Dark traffic in front of a handler, as one program. -/
theorem wrap_filter (copy : Req → Req) (next : Handler σ Req Rep) (req : Req) :
    (s.filter copy).wrap next req = (s.sampler.accepts req).bind fun sampled =>
      if sampled then
        if s.afterService then
          (next req).bind fun o => .note (.darkIssued s.id) (.note (.metric .darkIssued)
            (.launch ⟨s.id, s.dark (copy req)⟩ (.done o)))
        else .note (.darkIssued s.id) (.note (.metric .darkIssued)
          (.launch ⟨s.id, s.dark (copy req)⟩ (next req)))
      else next req := by
  have hcall : Prog.answer next (Prog.call req : Flow σ Req (Outcome Rep) (Outcome Rep)) = next req :=
    Prog.bind_done _
  have hsampler : Prog.answer next (s.sampler.accepts req : Flow σ Req (Outcome Rep) Bool)
      = s.sampler.accepts req := by
    cases s.sampler with
    | when accept => rfl
    | drawn accept => rfl
  show Prog.answer next ((s.sampler.accepts req).bind _) = _
  rw [Prog.answer_bind, hsampler]
  refine congrArg (Prog.bind _) (funext fun sampled => ?_)
  cases sampled with
  | false => exact hcall
  | true =>
    show Prog.answer next (if s.afterService then _ else _) = if s.afterService then _ else _
    cases s.afterService with
    | true => rfl
    | false => exact congrArg (fun p => Prog.note _ (.note _ (.launch _ p))) hcall

/-- **Dark traffic** lets a run of what is behind it pass, and issues a call before it or after it if the
    request was sampled. -/
theorem run_dark {copy : Req → Req} {next : Handler σ Req Rep} {req : Req}
    {acts : List (Prog.Action σ Job)} {outcome : Outcome Rep}
    (h : Prog.Run ((s.filter copy).wrap next req) acts (some outcome)) :
    ∃ sampled decision acts', Prog.Run (s.sampler.accepts req) decision (some sampled) ∧
      Prog.Run (next req) acts' (some outcome) ∧
      Prog.essence acts = Prog.essence decision ++ ((s.around sampled (copy req)).1 ++
        Prog.essence acts' ++ (s.around sampled (copy req)).2) := by
  rw [wrap_filter] at h
  obtain ⟨sampled, decision, rest, hdecision, hrest, hessence⟩ := Prog.run_bind h
  rw [hessence]
  cases sampled with
  | false =>
    refine ⟨false, decision, rest, hdecision, hrest, ?_⟩
    rw [around, List.nil_append, List.append_nil]
  | true =>
    rw [if_pos rfl] at hrest
    cases hafter : s.afterService with
    | true =>
      rw [hafter, if_pos rfl] at hrest
      obtain ⟨inner, first, second, hnext, hissue, hessence'⟩ := Prog.run_bind hrest
      cases hissue with
      | note hissue =>
      cases hissue with
      | note hissue =>
      cases hissue with
      | launch hissue =>
      obtain ⟨rfl, hnothing⟩ := Prog.run_done hissue
      refine ⟨true, decision, first, hdecision, hnext, congrArg (Prog.essence decision ++ ·) ?_⟩
      have hissuing : Prog.essence (s.issuing (copy req) ++ _) = s.issuing (copy req) ++ [] :=
        congrArg (s.issuing (copy req) ++ ·) hnothing
      rw [List.append_nil] at hissuing
      simp only [around, hafter, List.nil_append]
      rw [← hissuing]
      exact hessence'
    | false =>
      rw [hafter, if_neg Bool.false_ne_true] at hrest
      cases hrest with
      | note hrest =>
      cases hrest with
      | note hrest =>
      cases hrest with
      | launch hrest =>
      refine ⟨true, decision, _, hdecision, hrest, congrArg (Prog.essence decision ++ ·) ?_⟩
      simp only [around, hafter, List.append_nil]
      rfl

end Dark.Settings

/-! ## Coming to an end -/

section

variable {σ Req Rep : Type} {ofJob : Job → Prop}

/-- Mapping failures is tame. -/
theorem Filter.tame_mapFailures (resolver : Resolver Rep) (req : Req) :
    (mapFailures resolver req : Flow σ Req (Outcome Rep) (Outcome Rep)).Tame ofJob := by
  rw [mapFailures_eq]
  refine (Prog.tame_call req).bind fun outcome => ?_
  rw [settle_eq]
  exact (Prog.tame_observeAll _).bind fun _ => Prog.tame_done _

theorem Dark.Sampler.plain_accepts {Q A : Type} (s : Sampler σ Req) (req : Req) :
    (s.accepts req : Flow σ Q A Bool).Plain := by
  cases s with
  | when accept => exact trivial
  | drawn accept => exact fun _ => trivial

/-- Dark traffic is tame if its jobs are of the kind. -/
theorem Dark.Settings.tame_filter (s : Settings σ Req) {copy : Req → Req}
    (hjob : ∀ req, ofJob ⟨s.id, s.dark (copy req)⟩) (req : Req) :
    (s.filter copy req : Flow σ Req (Outcome Rep) (Outcome Rep)).Tame ofJob := by
  refine (s.sampler.plain_accepts req).tame.bind fun sampled => ?_
  have hissue : ∀ {α : Type} {k : Flow σ Req (Outcome Rep) α}, k.Tame ofJob →
      ((s.issue (copy req)).bind fun _ => k).Tame ofJob :=
    fun hk => Prog.tame_note (Prog.tame_note (Prog.tame_launch (hjob req) hk))
  cases sampled with
  | false => exact Prog.tame_call req
  | true =>
    show (if s.afterService then _ else _ : Flow σ Req (Outcome Rep) (Outcome Rep)).Tame ofJob
    split
    · exact (Prog.tame_call req).bind fun outcome => hissue (Prog.tame_done outcome)
    · exact hissue (Prog.tame_call req)

/-- A request behind tame filters is a tame program if what it comes to is. -/
theorem Chain.tame_compose {chain : Chain σ Req Rep} {terminal : Handler σ Req Rep}
    (hchain : ∀ f ∈ chain, ∀ req, (f req).Tame ofJob) (hterminal : ∀ req, (terminal req).Tame ofJob)
    (req : Req) : (chain.compose terminal req).Tame ofJob := by
  induction chain generalizing req with
  | nil => exact hterminal req
  | cons f chain ih =>
    obtain ⟨hf, hrest⟩ := List.forall_mem_cons.mp hchain
    exact (hf req).answer (ih hrest)

end

namespace Route

variable {σ : Type} {ofJob : Job → Prop}

theorem tame_stats (req : Http.Request) : (stats req : Flow σ _ _ _).Tame ofJob :=
  (Prog.tame_call req).bind fun outcome => Prog.tame_note (Prog.tame_note (Prog.tame_done outcome))

theorem tame_logging (req : Http.Request) : (logging req : Flow σ _ _ _).Tame ofJob := by
  refine (Prog.tame_call req).bind fun outcome => ?_
  cases outcome with
  | ok rep => exact Prog.tame_note (Prog.tame_done _)
  | error f => exact Prog.tame_note (Prog.tame_done _)

/-- Request ids are tame, and so are counting and access logging. -/
theorem tame_requestIds (fresh : σ → String × σ) (req : Http.Request) :
    (requestIds fresh req).Tame ofJob := by
  have hidentify : (identify fresh req).Tame ofJob := by
    rw [identify]
    cases req.requestId? with
    | some id => exact Prog.tame_done _
    | none => exact Prog.tame_step fun s => Prog.tame_done _
  refine hidentify.bind fun identified => (Prog.tame_call identified.2).bind fun outcome => ?_
  cases outcome with
  | ok rep => exact Prog.tame_done _
  | error f => exact Prog.tame_done _

end Route
end Switchyard
