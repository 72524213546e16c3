import Switchyard.Proofs.Filter.Observers
import Switchyard.Rpc.Call
import Switchyard.Route.Filters
import Switchyard.Dark.Basic

/-!
  Logging, counting and dark traffic do not interfere with what they observe.

  1. **What they do.**  Each of these filters lets requests and outcomes pass, and adds entries and jobs
     (`Route.observers`, `Rpc.observers`): logging leaves an event, counting two metrics, and a dark traffic
     filter starts a job, whatever its client does in it.

  2. **When they do it.**  Logging and counting call the rest of the path in their future, and so does dark
     traffic that is sent once the outcome is there; other dark traffic, and a request that is not sampled,
     has the future of the rest of the path given back as it is.

  3. **On any path.**  So a path is not disturbed by any number of them, wherever they stand on it, if its
     stages await the rest of the path as soon as they call it (`observers_do_not_interfere`).  What is at
     the end of the path may do its work when it is called, or when its future is awaited.

  The condition is there because of the second point: an observer defers the call of what is behind it.  A
  stage that calls the rest of the path and lets the future go has made a handler act that acts when it is
  called; with an observer in between, it has not (`observers_interfere_with_dropped_futures`).
-/

namespace Switchyard

/-- Is the entry a mark of an application stage? -/
def Observation.isMark : Observation → Bool
  | mark _ => true
  | _ => false

/-! ## Dark traffic -/

namespace Dark

/-- A dark traffic filter whose sampler goes by the request alone. -/
structure Mirror (Req : Type) where
  id : DarkId
  client : Client Req
  accept : Req → Bool := fun _ => true
  afterService : Bool := true
  timeoutMs : Nat := 1000

namespace Mirror

variable {Req Rep σ σ' Q A α : Type} (d : Mirror Req)

/-- What the filter is made of, over any state. -/
def settings (σ : Type) : Settings σ Req :=
  { id := d.id, client := d.client, sampler := .when d.accept, afterService := d.afterService
    timeoutMs := d.timeoutMs }

/-- The job of sending a copy. -/
def job (copy : Req) : Job := ⟨d.id, (d.settings Unit).dark copy⟩

/-- Issue a dark call and go on. -/
def issuing (copy : Req) (k : Flow σ Q A α) : Flow σ Q A α :=
  .note (.darkIssued d.id) (.note (.metric .darkIssued) (.launch (d.job copy) k))

/-- The filter: requests that are not sampled pass, and so do the others, before or after a dark call is
    issued. -/
theorem filter_eq (copy : Req → Req) (req : Req) :
    ((d.settings σ).filter copy req : Flow σ Req (Outcome Rep) (Outcome Rep)) =
      if d.accept req then
        if d.afterService then .ask req fun o => d.issuing (copy req) (.done o)
        else d.issuing (copy req) (Filter.pass req)
      else Filter.pass req := rfl

variable {d} {π : σ → σ'} {seen : Observation → Bool} {copy : Req}

/-- The job of sending a copy leaves what the client leaves, and entries that say how it ended. -/
theorem leaves_job {entry : Observation} (h : (d.job copy).Leaves entry) :
    (d.client.send copy).Leaves (fun e _ => nomatch e) entry ∨ (∃ e, entry = .event e) ∨
      ∃ outcome, entry = .darkFinished d.id outcome ∨ entry = .metric (.darkFinished outcome) := by
  rcases Prog.leaves_of_bind h with hclient | ⟨result, hfinish⟩
  · exact Or.inl (Prog.leaves_of_within hclient)
  · refine Or.inr ?_
    rcases List.mem_append.mp (Prog.mem_of_leaves_observeAll hfinish) with hevent | hend
    · obtain ⟨e, -, rfl⟩ := List.mem_map.mp hevent
      exact Or.inl ⟨e, rfl⟩
    · rcases List.mem_cons.mp hend with rfl | hend
      · exact Or.inr ⟨_, Or.inl rfl⟩
      · exact Or.inr ⟨_, Or.inr (List.mem_singleton.mp hend)⟩

/-- Issuing a dark call is an addition if nothing that comes of it is seen. -/
theorem adorned_issuing {k : Flow σ Q A α} {p' : Flow σ' Q A α} (h : Prog.Adorned π seen k p')
    {k₀ : Flow Unit Q A α}
    (hunseen : ∀ entry, (d.issuing copy k₀).Leaves Job.Leaves entry → seen entry = false) :
    Prog.Adorned π seen (d.issuing copy k) p' :=
  .noted (hunseen _ (.here _ _)) <| .noted (hunseen _ (.note (.here _ _))) <|
    .launched (fun _ ho => hunseen _ (.note (.note (.job ho)))) h

theorem issuing_same {k : Flow σ Q A α} {k' : Flow σ' Q A α} (h : Prog.Adorned π seen k k') :
    Prog.Adorned π seen (d.issuing copy k) (d.issuing copy k') :=
  .note _ (.note _ (.launch _ h))

/-- **Dark traffic only adds to what passes**: where a request is sampled, a dark call is issued before the
    rest of the path or after it. -/
theorem adorned_filter {mirrored : Req → Req} (req : Req)
    (hunseen : ∀ entry, ((d.settings Unit).filter mirrored req :
      Flow Unit Req (Outcome Rep) (Outcome Rep)).Leaves Job.Leaves entry → seen entry = false) :
    Prog.Adorned π seen ((d.settings σ).filter mirrored req)
      (Filter.pass req : Flow σ' Req (Outcome Rep) (Outcome Rep)) := by
  rw [filter_eq] at hunseen ⊢
  by_cases haccept : d.accept req = true
  · rw [if_pos haccept] at hunseen ⊢
    by_cases hafter : d.afterService = true
    · rw [if_pos hafter] at hunseen ⊢
      exact .ask req fun o => adorned_issuing (.done o) fun entry h => hunseen entry (.answered o h)
    · rw [if_neg hafter] at hunseen ⊢
      exact adorned_issuing (.ask req .done) hunseen
  · rw [if_neg haccept]
    exact .ask req .done

theorem filter_same {mirrored : Req → Req} (req : Req) :
    Prog.Adorned π seen ((d.settings σ).filter mirrored req)
      ((d.settings σ').filter mirrored req : Flow σ' Req (Outcome Rep) (Outcome Rep)) := by
  rw [filter_eq, filter_eq]
  by_cases haccept : d.accept req = true
  · rw [if_pos haccept, if_pos haccept]
    by_cases hafter : d.afterService = true
    · rw [if_pos hafter, if_pos hafter]
      exact .ask req fun o => issuing_same (.done o)
    · rw [if_neg hafter, if_neg hafter]
      exact issuing_same (.ask req .done)
  · rw [if_neg haccept, if_neg haccept]
    exact .ask req .done

/-- Dark traffic leaves no marks unless its client does. -/
theorem unmarked_filter {mirrored : Req → Req} {req : Req} {entry : Observation}
    (hclient : ∀ copy entry, (d.client.send copy).Leaves (fun e _ => nomatch e) entry →
      entry.isMark = false)
    (h : ((d.settings Unit).filter mirrored req :
      Flow Unit Req (Outcome Rep) (Outcome Rep)).Leaves Job.Leaves entry) : entry.isMark = false := by
  -- an entry of a dark call is one of the two that issue it, or left by its job
  have hissuing : ∀ {copy : Req} {k : Flow Unit Req (Outcome Rep) (Outcome Rep)},
      (d.issuing copy k).Leaves Job.Leaves entry → entry.isMark = false ∨ k.Leaves Job.Leaves entry := by
    intro copy k h
    cases h with
    | here => exact Or.inl rfl
    | note h =>
    cases h with
    | here => exact Or.inl rfl
    | note h =>
    cases h with
    | launch h => exact Or.inr h
    | job h =>
      refine Or.inl ?_
      rcases leaves_job h with hsent | ⟨e, rfl⟩ | ⟨outcome, rfl | rfl⟩
      · exact hclient copy entry hsent
      · rfl
      · rfl
      · rfl
  have hpass : ¬ (Filter.pass req : Flow Unit Req (Outcome Rep) (Outcome Rep)).Leaves Job.Leaves entry := by
    intro h
    cases h with
    | answered a h => nomatch h
  rw [filter_eq] at h
  split at h
  · split at h
    · cases h with
      | answered outcome h =>
        refine (hissuing h).resolve_right fun h => ?_
        nomatch h
    · exact (hissuing h).resolve_right hpass
  · exact absurd h hpass

end Mirror
end Dark

/-! ## The observers of either kind of chain -/

namespace Route

/-- The observers on the path of an HTTP request. -/
inductive Observer where
  | logging
  | stats
  | dark (d : Dark.Mirror Http.Request)

/-- The filters that they are. -/
def Observer.filter (σ : Type) : Observer → Http.Filter σ
  | logging => Route.logging
  | stats => Route.stats
  | dark d => (d.settings σ).filter Http.Request.darkCopy

/-- The filters as they are applied. -/
def Observer.awaiting (σ : Type) : Observer → Awaiting σ Http.Request Http.Response
  | logging => .deferred Route.logging
  | stats => .deferred Route.stats
  | dark d => (d.settings σ).awaiting Http.Request.darkCopy

def observers : Observers Observer Http.Request Http.Response where
  filter := Observer.filter
  awaiting := Observer.awaiting
  filter_awaiting σ o := by
    cases o with
    | logging => exact Awaiting.filter_deferred Route.logging
    | stats => exact Awaiting.filter_deferred Route.stats
    | dark d => exact (d.settings σ).filter_awaiting Http.Request.darkCopy
  adds π seen o hunseen req := by
    cases o with
    | logging =>
      refine .ask req fun outcome => ?_
      cases outcome with
      | ok rep => exact .noted (hunseen req _ (.answered (.ok rep) (.here _ _))) (.done _)
      | error f => exact .noted (hunseen req _ (.answered (.error f) (.here _ _))) (.done _)
    | stats =>
      refine .ask req fun outcome => ?_
      exact .noted (hunseen req _ (.answered outcome (.here _ _))) <|
        .noted (hunseen req _ (.answered outcome (.note (.here _ _)))) (.done _)
    | dark d => exact Dark.Mirror.adorned_filter req (hunseen req)
  same π seen o req := by
    cases o with
    | logging =>
      refine .ask req fun outcome => ?_
      cases outcome with
      | ok rep => exact .note _ (.done _)
      | error f => exact .note _ (.done _)
    | stats => exact .ask req fun outcome => .note _ (.note _ (.done _))
    | dark d => exact Dark.Mirror.filter_same req

end Route

namespace Rpc

/-- The observers on the path of a call. -/
inductive Observer where
  | logging
  | dark (d : Dark.Mirror Call)

/-- The filters that they are. -/
def Observer.filter (σ : Type) : Observer → Filter σ
  | logging => Rpc.logging
  | dark d => (d.settings σ).filter Call.darkCopy

/-- The filters as they are applied. -/
def Observer.awaiting (σ : Type) : Observer → Awaiting σ Call Reply
  | logging => .deferred Rpc.logging
  | dark d => (d.settings σ).awaiting Call.darkCopy

def observers : Observers Observer Call Reply where
  filter := Observer.filter
  awaiting := Observer.awaiting
  filter_awaiting σ o := by
    cases o with
    | logging => exact Awaiting.filter_deferred Rpc.logging
    | dark d => exact (d.settings σ).filter_awaiting Call.darkCopy
  adds π seen o hunseen call := by
    cases o with
    | logging =>
      refine .ask call fun outcome => ?_
      cases outcome with
      | ok rep => exact .noted (hunseen call _ (.answered (.ok rep) (.here _ _))) (.done _)
      | error f => exact .noted (hunseen call _ (.answered (.error f) (.here _ _))) (.done _)
    | dark d => exact Dark.Mirror.adorned_filter call (hunseen call)
  same π seen o call := by
    cases o with
    | logging =>
      refine .ask call fun outcome => ?_
      cases outcome with
      | ok rep => exact .note _ (.done _)
      | error f => exact .note _ (.done _)
    | dark d => exact Dark.Mirror.filter_same call

end Rpc

/-! ## Paths -/

/-- **Observers do not interfere.**  On the path of an HTTP request or of a call there may be any number of
    them, anywhere among any other stages that await the rest of the path, with any dark clients, and in
    front of anything that can be called: as long as the others do not go by what the observers leave, none
    of them is disturbed (`Observers.Undisturbed`). -/
theorem observers_do_not_interfere {σ : Type} (seen : Observation → Bool) :
    (∀ (stations : List (Station Route.Observer (Awaiting σ Http.Request Http.Response)))
        (terminal : Callable σ Http.Request Http.Response),
        Route.observers.Apart seen stations terminal →
        Route.observers.Undisturbed seen stations terminal) ∧
      ∀ (stations : List (Station Rpc.Observer (Awaiting σ Rpc.Call Rpc.Reply)))
        (terminal : Callable σ Rpc.Call Rpc.Reply), Rpc.observers.Apart seen stations terminal →
        Rpc.observers.Undisturbed seen stations terminal :=
  ⟨fun _ _ => Observers.undisturbed, fun _ _ => Observers.undisturbed⟩

/-- A stage that runs the rest of the path twice unless it finds a mark, between a counter and a dark
    traffic filter whose client never ends, in front of a handler that counts its calls as soon as it is
    called: the stage goes by the marks, and neither observer leaves any. -/
theorem observers_do_not_interfere_twice :
    let hanging : Dark.Client Http.Request := ⟨fun _ => .halt⟩
    let twice : Awaiting Nat Http.Request Http.Response := .deferred fun req => .lookBack fun past =>
      if (Observation.marks past).isEmpty then .ask req fun _ => .ask req .done else .ask req .done
    let counting : Callable Nat Http.Request Http.Response :=
      .eager fun _ => .step (· + 1) fun n => .done (.ok (.empty (200 + n)))
    let stations : List (Station Route.Observer (Awaiting Nat Http.Request Http.Response)) :=
      [.observer .stats, .stage twice,
        .observer (.dark { id := 0, client := hanging, afterService := false })]
    let req : Http.Request := { target := { path := "/ping" } }
    let reply (n : Nat) : Outcome Http.Response := .ok (.empty (200 + n))
    Route.observers.Apart Observation.isMark stations counting ∧
      (Machine.run ((Route.observers.called stations counting).awaited req) ⟨0, [], []⟩).1
        = some (reply 1) ∧
      Route.observers.log stations counting req ⟨0, [], []⟩
        = [.entered 0 req, .entered 1 req, .left 1 (reply 0), .entered 1 req, .left 1 (reply 1),
          .left 0 (reply 1)] := by
  intro hanging twice counting stations req reply
  have hmarks : ∀ past, Observation.marks (past.filter Observation.isMark) = Observation.marks past := by
    intro past
    rw [Observation.marks, Observation.marks, List.filterMap_filter]
    refine congrArg (List.filterMap · past) (funext fun o => ?_)
    cases o <;> rfl
  have hunseen : ∀ o, .observer o ∈ stations →
      Unseen Observation.isMark (Route.observers.filter Unit o) := by
    intro o ho req entry hentry
    rcases List.mem_cons.mp ho with heq | ho
    · obtain rfl := Station.observer.inj heq
      cases hentry with
      | answered outcome h =>
      cases h with
      | here => rfl
      | note h =>
      cases h with
      | here => rfl
      | note h => nomatch h
    rcases List.mem_cons.mp ho with heq | ho
    · nomatch heq
    · obtain rfl := Station.observer.inj (List.mem_singleton.mp ho)
      refine Dark.Mirror.unmarked_filter (fun copy entry h => ?_) hentry
      nomatch h
  have hstages : ∀ p, .stage p ∈ stations → GoesBy Observation.isMark p.filter := by
    intro p hp req
    rcases List.mem_cons.mp hp with heq | hp
    · nomatch heq
    rcases List.mem_cons.mp hp with heq | hp
    · obtain rfl := Station.stage.inj heq
      refine ⟨fun past past' h => ?_, fun past => ?_⟩
      · dsimp only
        rw [← hmarks past, ← hmarks past', h]
      · dsimp only
        split
        · exact fun _ _ => trivial
        · exact fun _ => trivial
    · nomatch List.mem_singleton.mp hp
  have hapart : Route.observers.Apart Observation.isMark stations counting :=
    ⟨hunseen, hstages, fun _ _ => trivial⟩
  have hlike : Machine.Like id Observation.isMark (⟨0, [], []⟩ : Machine Nat) ⟨0, [], []⟩ :=
    ⟨rfl, rfl, .nil⟩
  obtain ⟨-, hrun, hlog, -⟩ := (observers_do_not_interfere Observation.isMark).1 stations counting hapart
  exact ⟨hapart, (hrun req _ _ hlike).value.trans rfl, (hlog req _ _ hlike).trans rfl⟩

/-- **Letting go of a future.**  A stage calls the rest of the path and answers without awaiting the future
    that it got.  The handler keeps the requests that it is called with, as it is called: it has this one,
    but with access logging in between it was never called. -/
theorem observers_interfere_with_dropped_futures :
    let keeping : Callable (List Http.Request) Http.Request Http.Response :=
      .eager fun req => .step (· ++ [req]) fun _ => .done (.ok (.empty 201))
    let lettingGo (next : Callable (List Http.Request) Http.Request Http.Response) :
        Callable (List Http.Request) Http.Request Http.Response := fun req => do
      let _ ← next req
      pure (.done (.ok (.empty 202)))
    let logged := (Route.observers.awaiting _ .logging).apply keeping
    let req : Http.Request := { method := "POST", target := { path := "/groups/" } }
    (Machine.run ((lettingGo keeping).awaited req) ⟨[], [], []⟩).2.state = [req] ∧
      (Machine.run ((lettingGo logged).awaited req) ⟨[], [], []⟩).2.state = [] :=
  ⟨rfl, rfl⟩

end Switchyard
