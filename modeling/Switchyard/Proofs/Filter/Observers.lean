import Switchyard.Filter.Basic
import Switchyard.Proofs.Filter.Calling
import Switchyard.Proofs.Program.Likeness

/-!
  Chains with observers among their stages.

  An observer is a filter that lets requests and outcomes pass as they are, and adds entries and jobs to
  what happens (`Observers`).  A path is told as a list of stations, each of them an observer or another
  stage, with a handler at its end.  It is told twice: as it is called (`Observers.called`), where a stage
  may act when it is called and in its future, and as the program that this comes to when it is awaited
  (`Observers.path`).  The argument is about programs:

  1. **Additions.**  Each observer is the program that lets everything pass, with additions, and what stands
     in front of a path with additions is one itself (`adorned_path`).

  2. **Nobody looks.**  The other stages go by entries of the record that no observer leaves, so that a run
     with the additions and one without them stay alike (`goesBy_path`, `Prog.Adorned.run`).

  3. **The log.**  So as to compare what the other stages see, a log is kept of the requests that they are
     entered with and of the outcomes that they are left with.  Keeping it is an addition too
     (`run_toldPath`), and a path of which the log tells is again a path with observers, so that the log
     itself is the same (`toldPath_filter`).

  4. **The bridge.**  A path of filters that await the rest of it, called and awaited, is the path of their
     programs, also when a log is kept (`awaited_called`, `awaited_toldCalled`).

  The main statement is `Observers.undisturbed`: with the observers and without them, a path comes to the
  same outcome, after the same waiting, and the same log is kept of its stages.
-/

namespace Switchyard

/-! ## What stages leave, and what they go by -/

section

variable {σ Req Q A Rep : Type}

/-- No entry is seen that a filter may leave, itself or by a job that it starts. -/
def Unseen (seen : Observation → Bool) (f : Filter σ Req Rep) : Prop :=
  ∀ req entry, (f req).Leaves Job.Leaves entry → seen entry = false

/-- A stage, filter or handler, goes by entries of the record only that are seen, and so do the jobs that
    it starts. -/
def GoesBy (seen : Observation → Bool) (f : Req → Flow σ Q A (Outcome Rep)) : Prop :=
  ∀ req, (f req).ReadsOnly seen (Job.ReadsOnly seen)

end

/-! ## Keeping a log -/

/-- What is told of a stage. -/
inductive Told (Req Rep : Type) where
  /-- It is entered with a request. -/
  | entered (stage : Nat) (req : Req)
  /-- It is left with an outcome. -/
  | left (stage : Nat) (outcome : Outcome Rep)

namespace Prog

variable {σ τ Q A α : Type}

/-- The program beside a log that it does not know of. -/
def beside (τ : Type) : Flow σ Q A α → Flow (σ × τ) Q A α
  | done a => done a
  | step u k => step (fun s => (u s.1, s.2)) fun s => beside τ (k s.1)
  | note o k => note o (beside τ k)
  | lookBack k => lookBack fun past => beside τ (k past)
  | launch j k => launch j (beside τ k)
  | wait ms k => wait ms (beside τ k)
  | halt => halt
  | ask q k => ask q fun a => beside τ (k a)

/-- Put an entry at the end of the log. -/
def tell (t : τ) : Flow (σ × List τ) Q A Unit := step (fun s => (s.1, s.2 ++ [t])) fun _ => done ()

/-- A log beside the state is an addition that changes nothing else. -/
theorem adorned_beside (seen : Observation → Bool) (p : Flow σ Q A α) :
    Adorned Prod.fst seen (p.beside τ) p := by
  induction p with
  | done a => exact .done a
  | halt => exact .halt
  | step u k ih => exact .step (fun _ => rfl) fun s => ih s.1
  | note o k ih => exact .note o ih
  | lookBack k ih => exact .lookBack ih
  | launch j k ih => exact .launch j ih
  | wait ms k ih => exact .wait ms ih
  | ask q k ih => exact .ask q ih

/-- Programs one after the other are put beside a log one after the other. -/
theorem beside_bind {β : Type} (p : Flow σ Q A α) (f : α → Flow σ Q A β) :
    (p.bind f).beside τ = (p.beside τ).bind fun a => (f a).beside τ := by
  induction p with
  | done a => rfl
  | halt => rfl
  | step u k ih => exact congrArg (step _) (funext fun s => ih s.1)
  | note o k ih => exact congrArg (note o) ih
  | lookBack k ih => exact congrArg lookBack (funext ih)
  | launch j k ih => exact congrArg (launch j) ih
  | wait ms k ih => exact congrArg (wait ms) ih
  | ask q k ih => exact congrArg (ask q) (funext ih)

theorem lift_beside (p : Flow σ Empty Empty α) :
    ((p.beside τ).lift : Flow (σ × τ) Q A α) = p.lift.beside τ := by
  induction p with
  | done a => rfl
  | halt => rfl
  | step u k ih => exact congrArg (step _) (funext fun s => ih s.1)
  | note o k ih => exact congrArg (note o) ih
  | lookBack k ih => exact congrArg lookBack (funext ih)
  | launch j k ih => exact congrArg (launch j) ih
  | wait ms k ih => exact congrArg (wait ms) ih
  | ask q k ih => exact q.elim

/-- A program beside a log reads of the record what it read before. -/
theorem readsOnly_beside {seen : Observation → Bool} {ofJob : Job → Prop} {p : Flow σ Q A α}
    (h : p.ReadsOnly seen ofJob) : (p.beside τ).ReadsOnly seen ofJob := by
  induction p with
  | done a => exact trivial
  | halt => exact trivial
  | step u k ih => exact fun s => ih s.1 (h s.1)
  | note o k ih => exact ih h
  | lookBack k ih =>
    exact ⟨fun past past' hpast => congrArg (beside τ) (h.1 past past' hpast),
      fun past => ih past (h.2 past)⟩
  | launch j k ih => exact ⟨h.1, ih h.2⟩
  | wait ms k ih => exact ih h
  | ask q k ih => exact fun a => ih a (h a)

end Prog

/-- The machine with a log beside its state, and nothing in it. -/
def Machine.withLog {σ : Type} (τ : Type) (m : Machine σ) : Machine (σ × List τ) :=
  ⟨(m.state, []), m.past, m.jobs⟩

section Telling

variable {σ Req Rep Q A : Type}

/-- A program whose outcome the log tells of: a stage is left with it. -/
def tellingLeft (i : Nat) (p : Flow σ Q A (Outcome Rep)) :
    Flow (σ × List (Told Req Rep)) Q A (Outcome Rep) := do
  let outcome ← p.beside _
  Prog.tell (.left i outcome)
  pure outcome

/-- A stage, filter or handler, of which the log tells. -/
def telling (i : Nat) (f : Req → Flow σ Q A (Outcome Rep)) (req : Req) :
    Flow (σ × List (Told Req Rep)) Q A (Outcome Rep) := do
  Prog.tell (.entered i req)
  tellingLeft i (f req)

theorem tellingLeft_bind {α : Type} (i : Nat) (p : Flow σ Q A α) (f : α → Flow σ Q A (Outcome Rep)) :
    (tellingLeft i (p.bind f) : Flow (σ × List (Told Req Rep)) Q A (Outcome Rep)) =
      (p.beside _).bind fun a => tellingLeft i (f a) := by
  rw [tellingLeft, Prog.beside_bind]
  exact Prog.bind_assoc ..

/-- Telling of a stage is an addition that no one reads. -/
theorem adorned_telling (i : Nat) (f : Req → Flow σ Q A (Outcome Rep)) (seen : Observation → Bool)
    (req : Req) : Prog.Adorned Prod.fst seen (telling i f req) (f req) :=
  .kept (fun _ => rfl) fun _ =>
    (Prog.adorned_beside seen (f req)).bind_left fun o => .kept (fun _ => rfl) fun _ => .done o

/-- A stage of which the log tells goes by what it went by before. -/
theorem goesBy_telling {seen : Observation → Bool} {f : Req → Flow σ Q A (Outcome Rep)}
    (h : GoesBy seen f) (i : Nat) : GoesBy seen (telling i f) := fun req =>
  Prog.readsOnly_bind (fun _ => trivial) fun _ =>
    Prog.readsOnly_bind (Prog.readsOnly_beside (h req)) fun _ =>
      Prog.readsOnly_bind (fun _ => trivial) fun _ => trivial

end Telling

/-! ### The log of stages that are called -/

section

variable {σ Req Rep : Type}

/-- A handler that is called, of which the log tells: it is entered when it is called, and left when its
    future is over. -/
def Callable.telling (i : Nat) (h : Callable σ Req Rep) :
    Callable (σ × List (Told Req Rep)) Req Rep := fun req => do
  Prog.tell (.entered i req)
  let future ← (h req).beside _
  pure (tellingLeft i future)

/-- The plan of a filter of which the log tells. -/
def Plan.telling (i : Nat) : Plan σ Req Rep → Plan (σ × List (Told Req Rep)) Req Rep
  | own body => own (tellingLeft i body)
  | callFirst req rest => callFirst req fun outcome => tellingLeft i (rest outcome)

/-- A filter that awaits the rest of the path, of which the log tells: it is entered when it is applied,
    and left when its future is over. -/
def Awaiting.telling (i : Nat) (p : Awaiting σ Req Rep) :
    Awaiting (σ × List (Told Req Rep)) Req Rep := fun req => do
  Prog.tell (.entered i req)
  let plan ← (p req).beside _
  pure (plan.telling i)

/-- **Called and awaited, the log tells of a handler** what it tells of its program. -/
theorem Callable.awaited_telling (i : Nat) (h : Callable σ Req Rep) :
    (h.telling i).awaited = Switchyard.telling i h.awaited := by
  funext req
  have hleft : (((h req).beside (List (Told Req Rep))).bind fun future =>
      .done (tellingLeft i future)).bind id = tellingLeft i (h.awaited req) := by
    rw [awaited, tellingLeft_bind]
    exact Prog.bind_assoc ..
  exact congrArg (Prog.step _) (funext fun _ => hleft)

theorem Plan.body_telling (i : Nat) (plan : Plan σ Req Rep) :
    (plan.telling i).body = tellingLeft i plan.body := by
  cases plan <;> rfl

/-- And so it does of a filter that awaits the rest of the path. -/
theorem Awaiting.filter_telling (i : Nat) (p : Awaiting σ Req Rep) :
    (p.telling i).filter = Switchyard.telling i p.filter := by
  funext req
  have hleft : (((p req).beside (List (Told Req Rep))).bind fun plan => .done (plan.telling i)).lift.bind
      Plan.body = tellingLeft i (p.filter req) :=
    calc _ = ((p req).beside (List (Told Req Rep))).lift.bind fun plan => (plan.telling i).body := by
          rw [Prog.lift_bind]
          exact Prog.bind_assoc ..
      _ = ((p req).lift.beside _).bind fun plan => tellingLeft i plan.body := by
          simp only [Prog.lift_beside, Plan.body_telling]
      _ = tellingLeft i (p.filter req) := (tellingLeft_bind ..).symm
  exact congrArg (Prog.step _) (funext fun _ => hleft)

end

/-! ## Observers -/

/-- Letting requests and outcomes pass changes nothing. -/
theorem Filter.answer_pass {σ Req Rep : Type} (next : Handler σ Req Rep) (req : Req) :
    Prog.answer next (Filter.pass req : Flow σ Req (Outcome Rep) (Outcome Rep)) = next req :=
  Prog.bind_done (next req)

/-- Filters that only observe: `O` says which there are. -/
structure Observers (O Req Rep : Type) where
  /-- Each of them, over any state. -/
  filter (σ : Type) : O → Filter σ Req Rep
  /-- Each of them as it is applied. -/
  awaiting (σ : Type) : O → Awaiting σ Req Rep
  /-- What an observer does when it is applied and awaited is what its program says. -/
  filter_awaiting (σ : Type) (o : O) : (awaiting σ o).filter = filter σ o
  /-- An observer only adds to what passes, as long as nothing that it leaves is seen. -/
  adds {σ σ' : Type} (π : σ → σ') (seen : Observation → Bool) (o : O)
    (ho : Unseen seen (filter Unit o)) (req : Req) :
    Prog.Adorned π seen (filter σ o req)
      (Filter.pass req : Flow σ' Req (Outcome Rep) (Outcome Rep))
  /-- It does not depend on the state. -/
  same {σ σ' : Type} (π : σ → σ') (seen : Observation → Bool) (o : O) (req : Req) :
    Prog.Adorned π seen (filter σ o req) (filter σ' o req)

/-- A place on a path: an observer, or any other stage; `F` says what stages are. -/
inductive Station (O F : Type) where
  | observer (o : O)
  | stage (f : F)

namespace Station

variable {O F G F' G' : Type}

/-- Is it a stage that is no observer? -/
def isStage : Station O F → Bool
  | observer _ => false
  | stage _ => true

/-- Another form of the stages. -/
def map (g : F → G) : Station O F → Station O G
  | observer o => observer o
  | stage f => stage (g f)

/-- Stations with numbers given to the stages, as to the log; observers are left as they are. -/
def numberedFrom (tell : Nat → F → G) : Nat → List (Station O F) → List (Station O G)
  | _, [] => []
  | i, observer o :: rest => observer o :: numberedFrom tell i rest
  | i, stage f :: rest => stage (tell i f) :: numberedFrom tell (i + 1) rest

theorem isStage_map (g : F → G) (station : Station O F) : (station.map g).isStage = station.isStage := by
  cases station <;> rfl

/-- Deleting observers and giving the stages another form come to the same in any order. -/
theorem map_filter_isStage (g : F → G) (stations : List (Station O F)) :
    (stations.filter isStage).map (map g) = (stations.map (map g)).filter isStage := by
  rw [List.filter_map]
  exact congrArg (List.map (map g))
    (List.filter_congr fun station _ => (isStage_map g station).symm)

theorem countP_isStage_map (g : F → G) (stations : List (Station O F)) :
    (stations.map (map g)).countP isStage = stations.countP isStage := by
  rw [List.countP_map]
  exact List.countP_congr fun station _ => by rw [Function.comp_apply, isStage_map]

theorem countP_filter_isStage (stations : List (Station O F)) :
    (stations.filter isStage).countP isStage = stations.countP isStage := by
  rw [List.countP_filter]
  exact List.countP_congr fun station _ => by rw [Bool.and_self]

/-- Giving the stages another form makes no new observers. -/
theorem observer_mem_map {g : F → G} {stations : List (Station O F)} {o : O}
    (h : observer o ∈ stations.map (map g)) : observer o ∈ stations := by
  obtain ⟨station, hmem, heq⟩ := List.mem_map.mp h
  cases station with
  | observer o' => exact observer.inj heq ▸ hmem
  | stage f => nomatch heq

theorem stage_mem_map {g : F → G} {stations : List (Station O F)} {f' : G}
    (h : stage f' ∈ stations.map (map g)) : ∃ f, stage f ∈ stations ∧ g f = f' := by
  obtain ⟨station, hmem, heq⟩ := List.mem_map.mp h
  cases station with
  | observer o => nomatch heq
  | stage f => exact ⟨f, hmem, stage.inj heq⟩

/-- Deleting observers leaves the numbers of the stages. -/
theorem numberedFrom_filter (tell : Nat → F → G) (i : Nat) (stations : List (Station O F)) :
    numberedFrom tell i (stations.filter isStage) = (numberedFrom tell i stations).filter isStage := by
  induction stations generalizing i with
  | nil => rfl
  | cons station stations ih =>
    cases station with
    | observer o => exact ih i
    | stage f => exact congrArg (List.cons _) (ih (i + 1))

/-- Stages may be given another form before they are numbered, or afterwards. -/
theorem map_numberedFrom {tell : Nat → F → G} {tell' : Nat → F' → G'} {g : F → F'} {g' : G → G'}
    (hg : ∀ i f, g' (tell i f) = tell' i (g f)) (i : Nat) (stations : List (Station O F)) :
    (numberedFrom tell i stations).map (map g') = numberedFrom tell' i (stations.map (map g)) := by
  induction stations generalizing i with
  | nil => rfl
  | cons station stations ih =>
    cases station with
    | observer o => exact congrArg (List.cons _) (ih i)
    | stage f => simp only [numberedFrom, List.map_cons, map, hg, ih (i + 1)]

/-- A station with a number is an observer, or a stage that was given one. -/
theorem of_mem_numberedFrom {tell : Nat → F → G} {i : Nat} {stations : List (Station O F)}
    {station : Station O G} (h : station ∈ numberedFrom tell i stations) :
    (∃ o, observer o ∈ stations ∧ station = observer o) ∨
      ∃ j f, stage f ∈ stations ∧ station = stage (tell j f) := by
  induction stations generalizing i with
  | nil => nomatch h
  | cons first stations ih =>
    have hrest : ∀ {i}, station ∈ numberedFrom tell i stations →
        (∃ o, observer o ∈ first :: stations ∧ station = observer o) ∨
          ∃ j f, stage f ∈ first :: stations ∧ station = stage (tell j f) := by
      intro i h
      rcases ih h with ⟨o, ho, heq⟩ | ⟨j, f, hf, heq⟩
      · exact Or.inl ⟨o, List.mem_cons_of_mem _ ho, heq⟩
      · exact Or.inr ⟨j, f, List.mem_cons_of_mem _ hf, heq⟩
    cases first with
    | observer o =>
      rcases List.mem_cons.mp h with heq | h
      · exact Or.inl ⟨o, List.mem_cons_self, heq⟩
      · exact hrest h
    | stage f =>
      rcases List.mem_cons.mp h with heq | h
      · exact Or.inr ⟨i, f, List.mem_cons_self, heq⟩
      · exact hrest h

end Station

namespace Observers

variable {O σ Req Rep : Type} (obs : Observers O Req Rep)

/-! ### Paths of programs -/

/-- A station as a filter. -/
def station : Station O (Filter σ Req Rep) → Filter σ Req Rep
  | .observer o => obs.filter σ o
  | .stage f => f

/-- A path with a handler at its end. -/
def path (stations : List (Station O (Filter σ Req Rep))) (terminal : Handler σ Req Rep) :
    Handler σ Req Rep := Chain.compose (stations.map obs.station) terminal

/-- The path of which the log tells; the handler has the number after the last stage. -/
def toldPath (stations : List (Station O (Filter σ Req Rep))) (terminal : Handler σ Req Rep) :
    Handler (σ × List (Told Req Rep)) Req Rep :=
  obs.path (Station.numberedFrom telling 0 stations)
    (telling (stations.countP Station.isStage) terminal)

/-! ### Paths that are called -/

/-- A station as a filter that is applied. -/
def applied : Station O (Awaiting σ Req Rep) → Awaiting σ Req Rep
  | .observer o => obs.awaiting σ o
  | .stage p => p

/-- A path with a handler at its end, as it is called. -/
def called (stations : List (Station O (Awaiting σ Req Rep))) (terminal : Callable σ Req Rep) :
    Callable σ Req Rep := stations.foldr (fun station => (obs.applied station).apply) terminal

/-- The path of which the log tells, as it is called. -/
def toldCalled (stations : List (Station O (Awaiting σ Req Rep))) (terminal : Callable σ Req Rep) :
    Callable (σ × List (Told Req Rep)) Req Rep :=
  obs.called (Station.numberedFrom Awaiting.telling 0 stations)
    (terminal.telling (stations.countP Station.isStage))

/-- The log that is kept when a path is called and awaited: every request that a stage or the handler is
    called with and every outcome that its future comes to, in order. -/
def log (stations : List (Station O (Awaiting σ Req Rep))) (terminal : Callable σ Req Rep) (req : Req)
    (m : Machine σ) : List (Told Req Rep) :=
  (Machine.run ((obs.toldCalled stations terminal).awaited req) (m.withLog _)).2.state.2

/-- What the observers leave in the record is not what the others go by. -/
structure Apart (seen : Observation → Bool) (stations : List (Station O (Awaiting σ Req Rep)))
    (terminal : Callable σ Req Rep) : Prop where
  /-- No entry is seen that an observer may leave, or a job that it starts. -/
  unseen : ∀ o, .observer o ∈ stations → Unseen seen (obs.filter Unit o)
  /-- The other stages, and the jobs that they start, go by entries only that are seen. -/
  stages : ∀ p, .stage p ∈ stations → GoesBy seen p.filter
  terminal : GoesBy seen terminal.awaited

/-- A path is not disturbed by the observers on it.  It is called and awaited, and compared with the path
    from which they are deleted, for every request and on any machines that are alike; such are a machine
    and itself, unless a job is under way that goes by what is not seen. -/
structure Undisturbed (seen : Observation → Bool) (stations : List (Station O (Awaiting σ Req Rep)))
    (terminal : Callable σ Req Rep) : Prop where
  /-- In any surroundings: the program with the observers is the program without them, with entries and
      jobs added that nobody looks at. -/
  adorned : ∀ req, Prog.Adorned id seen ((obs.called stations terminal).awaited req)
    ((obs.called (stations.filter Station.isStage) terminal).awaited req)
  /-- Run, it comes to the same outcome, after the same waiting, and leaves the machines alike. -/
  run : ∀ req (m m' : Machine σ), m.Like id seen m' →
    SameRun id seen ((obs.called stations terminal).awaited req) m
      ((obs.called (stations.filter Station.isStage) terminal).awaited req) m'
  /-- All other stages and the handler are entered with the same requests and left with the same outcomes,
      as often and in the same order. -/
  log : ∀ req (m m' : Machine σ), m.Like id seen m' →
    obs.log stations terminal req m = obs.log (stations.filter Station.isStage) terminal req m'
  /-- What the log tells is what happens: keeping it leaves the outcome, the waiting, the state and the
      record as they are. -/
  faithful : ∀ req (m : Machine σ),
    SameRun Prod.fst (fun _ => true) ((obs.toldCalled stations terminal).awaited req) (m.withLog _)
      ((obs.called stations terminal).awaited req) m

/-! ## Paths that are called are paths of programs -/

variable {obs}

/-- **A path that is called and awaited** is the path of the programs of its stages. -/
theorem awaited_called (stations : List (Station O (Awaiting σ Req Rep)))
    (terminal : Callable σ Req Rep) : (obs.called stations terminal).awaited
      = obs.path (stations.map (Station.map Awaiting.filter)) terminal.awaited := by
  have hstation (station : Station O (Awaiting σ Req Rep)) :
      (obs.applied station).filter = obs.station (station.map Awaiting.filter) := by
    cases station with
    | observer o => exact obs.filter_awaiting σ o
    | stage p => rfl
  induction stations with
  | nil => rfl
  | cons station stations ih =>
    calc ((obs.applied station).apply (obs.called stations terminal)).awaited
        = (obs.applied station).filter.wrap (obs.called stations terminal).awaited :=
          Awaiting.awaited_apply ..
      _ = (obs.station (station.map Awaiting.filter)).wrap
            (obs.path (stations.map (Station.map Awaiting.filter)) terminal.awaited) := by
          rw [hstation, ih]

/-- So it is if a log is kept. -/
theorem awaited_toldCalled (stations : List (Station O (Awaiting σ Req Rep)))
    (terminal : Callable σ Req Rep) : (obs.toldCalled stations terminal).awaited
      = obs.toldPath (stations.map (Station.map Awaiting.filter)) terminal.awaited := by
  rw [toldCalled, awaited_called, Callable.awaited_telling, toldPath, Station.countP_isStage_map,
    Station.map_numberedFrom Awaiting.filter_telling]

/-- On such a path it makes no difference whether the handler at its end does its work when it is called, or
    when its future is awaited. -/
theorem awaited_called_eager (stations : List (Station O (Awaiting σ Req Rep))) (h : Handler σ Req Rep) :
    (obs.called stations (.eager h)).awaited = (obs.called stations (.deferred h)).awaited := by
  rw [awaited_called, awaited_called, Callable.awaited_eager, Callable.awaited_deferred]

/-! ## Paths with observers are paths with additions -/

/-- **Observers only add to a path.** -/
theorem adorned_path {seen : Observation → Bool} {stations : List (Station O (Filter σ Req Rep))}
    (hunseen : ∀ o, .observer o ∈ stations → Unseen seen (obs.filter Unit o))
    (terminal : Handler σ Req Rep) (req : Req) :
    Prog.Adorned id seen (obs.path stations terminal req)
      (obs.path (stations.filter Station.isStage) terminal req) := by
  -- from the inside: the rest of the path is one with additions, and so is any station in front of it
  induction stations generalizing req with
  | nil => exact .refl _
  | cons station stations ih =>
    have hrest := ih fun o ho => hunseen o (List.mem_cons_of_mem _ ho)
    cases station with
    | observer o =>
      have hadds := (obs.adds id seen o (hunseen o List.mem_cons_self) req).answer hrest
      rw [Filter.answer_pass] at hadds
      exact hadds
    | stage f => exact (Prog.Adorned.refl (f req)).answer hrest

/-- A path without observers goes by what its stages go by. -/
theorem goesBy_path {seen : Observation → Bool} {stations : List (Station O (Filter σ Req Rep))}
    (hstages : ∀ f, .stage f ∈ stations → GoesBy seen f) {terminal : Handler σ Req Rep}
    (hterminal : GoesBy seen terminal) :
    GoesBy seen (obs.path (stations.filter Station.isStage) terminal) := by
  intro req
  induction stations generalizing req with
  | nil => exact hterminal req
  | cons station stations ih =>
    have hrest := ih fun f hf => hstages f (List.mem_cons_of_mem _ hf)
    cases station with
    | observer o => exact hrest req
    | stage f => exact Prog.readsOnly_answer (hstages f List.mem_cons_self req) hrest

/-- Keeping a log only adds to a path. -/
theorem adorned_numberedFrom (seen : Observation → Bool) (stations : List (Station O (Filter σ Req Rep)))
    (i n : Nat) (terminal : Handler σ Req Rep) (req : Req) :
    Prog.Adorned Prod.fst seen
      (obs.path (Station.numberedFrom telling i stations) (telling n terminal) req)
      (obs.path stations terminal req) := by
  induction stations generalizing i req with
  | nil => exact adorned_telling n terminal seen req
  | cons station stations ih =>
    cases station with
    | observer o => exact (obs.same Prod.fst seen o req).answer (ih i)
    | stage f => exact (adorned_telling i f seen req).answer (ih (i + 1))

theorem readsOnly_all_job (j : Job) : j.ReadsOnly fun _ => true :=
  Prog.readsOnly_all (fun e => e.elim) j.body

/-- **Keeping a log leaves a run as it is.** -/
theorem run_toldPath (stations : List (Station O (Filter σ Req Rep))) (terminal : Handler σ Req Rep)
    (req : Req) (m : Machine σ) :
    SameRun Prod.fst (fun _ => true) (obs.toldPath stations terminal req) (m.withLog _)
      (obs.path stations terminal req) m := by
  refine (adorned_numberedFrom _ stations 0 _ terminal req).run (Prog.readsOnly_all readsOnly_all_job _) ?_
  exact ⟨rfl, rfl, .refl fun p _ => readsOnly_all_job p.job⟩

section

variable {seen : Observation → Bool} {stations : List (Station O (Filter σ Req Rep))}
  (hunseen : ∀ o, .observer o ∈ stations → Unseen seen (obs.filter Unit o))
  (hstages : ∀ f, .stage f ∈ stations → GoesBy seen f) {terminal : Handler σ Req Rep}
  (hterminal : GoesBy seen terminal) (req : Req) {m m' : Machine σ} (hm : m.Like id seen m')

include hunseen hstages hterminal hm

/-- **With the observers and without them a path runs alike.** -/
theorem run_path : SameRun id seen (obs.path stations terminal req) m
    (obs.path (stations.filter Station.isStage) terminal req) m' :=
  (adorned_path hunseen terminal req).run (goesBy_path hstages hterminal req) hm

/-- **The log does not tell whether there are observers.** -/
theorem toldPath_filter : (Machine.run (obs.toldPath stations terminal req) (m.withLog _)).2.state
    = (Machine.run (obs.toldPath (stations.filter Station.isStage) terminal req)
        (m'.withLog _)).2.state := by
  -- the path of which the log tells has the same observers, and stages that read the same
  have htoldUnseen : ∀ o, .observer o ∈ Station.numberedFrom telling 0 stations →
      Unseen seen (obs.filter Unit o) := by
    intro o ho
    rcases Station.of_mem_numberedFrom ho with ⟨o', ho', heq⟩ | ⟨j, f, -, heq⟩
    · obtain rfl := Station.observer.inj heq
      exact hunseen o ho'
    · nomatch heq
  have htoldStages : ∀ f, .stage f ∈ Station.numberedFrom telling 0 stations → GoesBy seen f := by
    intro f hf
    rcases Station.of_mem_numberedFrom hf with ⟨o, -, heq⟩ | ⟨j, f', hf', heq⟩
    · nomatch heq
    · obtain rfl := Station.stage.inj heq
      exact goesBy_telling (hstages f' hf') j
  have hlike : Machine.Like id seen (m.withLog (Told Req Rep)) (m'.withLog (Told Req Rep)) :=
    ⟨congrArg (·, []) hm.state, hm.past, hm.jobs⟩
  have hrun := run_path htoldUnseen htoldStages
    (goesBy_telling hterminal (stations.countP Station.isStage)) req hlike
  rw [toldPath, toldPath, Station.countP_filter_isStage, Station.numberedFrom_filter]
  exact hrun.like.state

end

/-- **Observers do not disturb a path** of stages that await the rest of it, if nothing that they leave is
    gone by. -/
theorem undisturbed {seen : Observation → Bool} {stations : List (Station O (Awaiting σ Req Rep))}
    {terminal : Callable σ Req Rep} (h : obs.Apart seen stations terminal) :
    obs.Undisturbed seen stations terminal := by
  -- the stages as programs, which is all that is left of them when the path is awaited
  have hplain : (obs.called (stations.filter Station.isStage) terminal).awaited
      = obs.path ((stations.map (Station.map Awaiting.filter)).filter Station.isStage)
          terminal.awaited := by
    rw [awaited_called, Station.map_filter_isStage]
  have htoldPlain : (obs.toldCalled (stations.filter Station.isStage) terminal).awaited
      = obs.toldPath ((stations.map (Station.map Awaiting.filter)).filter Station.isStage)
          terminal.awaited := by
    rw [awaited_toldCalled, Station.map_filter_isStage]
  have hunseen : ∀ o, .observer o ∈ stations.map (Station.map Awaiting.filter) →
      Unseen seen (obs.filter Unit o) := fun o ho => h.unseen o (Station.observer_mem_map ho)
  have hstages : ∀ f, .stage f ∈ stations.map (Station.map Awaiting.filter) → GoesBy seen f := by
    intro f hf
    obtain ⟨p, hp, rfl⟩ := Station.stage_mem_map hf
    exact h.stages p hp
  constructor
  case adorned =>
    intro req
    rw [awaited_called, hplain]
    exact adorned_path hunseen terminal.awaited req
  case run =>
    intro req m m' hm
    rw [awaited_called, hplain]
    exact run_path hunseen hstages h.terminal req hm
  case log =>
    intro req m m' hm
    rw [log, log, awaited_toldCalled, htoldPlain]
    exact congrArg Prod.snd (toldPath_filter hunseen hstages h.terminal req hm)
  case faithful =>
    intro req m
    rw [awaited_toldCalled, awaited_called]
    exact run_toldPath _ terminal.awaited req m

end Observers
end Switchyard
