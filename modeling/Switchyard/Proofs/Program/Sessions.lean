import Mathlib.Data.List.Forall2
import Switchyard.Proofs.Program.Bounded
import Switchyard.Proofs.Program.Likeness

/-!
  Programs on a machine, one after the other.

  In a session a machine runs programs in turn, and lets some time pass after each (`Machine.runAll`).  What
  the record of a session shows of the entries that are looked for is what the programs leave of them, as
  long as no job leaves any:

  * `run_of_ends`        — a program that ends comes to something;
  * `run_told`           — what a machine does to run a program is a run of the program;
  * `exists_run_of_ends` — so a program that ends has a run to its end;
  * `runAll_told`        — and so it is with all programs of a session.
-/

namespace Switchyard

namespace Prog

variable {σ δ Q A Q' A' α β : Type}

/-- The program starts only jobs of a kind. -/
def StartsOnly (ofJob : δ → Prop) : Prog σ δ Q A α → Prop
  | done _ | halt => True
  | step _ k => ∀ s, StartsOnly ofJob (k s)
  | note _ k | wait _ k => StartsOnly ofJob k
  | lookBack k => ∀ past, StartsOnly ofJob (k past)
  | launch j k => ofJob j ∧ StartsOnly ofJob k
  | ask _ k => ∀ a, StartsOnly ofJob (k a)

/-- Programs one after the other start only jobs of a kind if each of them does. -/
theorem startsOnly_bind {ofJob : δ → Prop} {p : Prog σ δ Q A α} {f : α → Prog σ δ Q A β}
    (hp : p.StartsOnly ofJob) (hf : ∀ a, (f a).StartsOnly ofJob) : (p.bind f).StartsOnly ofJob := by
  induction p with
  | done a => exact hf a
  | halt => exact trivial
  | step u k ih => exact fun s => ih s (hp s)
  | note o k ih => exact ih hp
  | lookBack k ih => exact fun past => ih past (hp past)
  | launch j k ih => exact ⟨hp.1, ih hp.2⟩
  | wait ms k ih => exact ih hp
  | ask q k ih => exact fun a => ih a (hp a)

/-- So does a program with such programs in place of its questions. -/
theorem startsOnly_answer {ofJob : δ → Prop} {p : Prog σ δ Q A α} {h : Q → Prog σ δ Q' A' A}
    (hp : p.StartsOnly ofJob) (hh : ∀ q, (h q).StartsOnly ofJob) : (p.answer h).StartsOnly ofJob := by
  induction p with
  | done a => exact trivial
  | halt => exact trivial
  | step u k ih => exact fun s => ih s (hp s)
  | note o k ih => exact ih hp
  | lookBack k ih => exact fun past => ih past (hp past)
  | launch j k ih => exact ⟨hp.1, ih hp.2⟩
  | wait ms k ih => exact ih hp
  | ask q k ih => exact startsOnly_bind (hh q) fun a => ih a (hp a)

theorem startsOnly_observeAll (ofJob : δ → Prop) (os : List Observation) :
    (observeAll os : Prog σ δ Q A Unit).StartsOnly ofJob := by
  induction os with
  | nil => exact trivial
  | cons o os ih => exact ih

/-- Programs one after the other end if each of them does. -/
theorem ends_bind {p : Prog σ δ Q A α} {f : α → Prog σ δ Q A β} (hp : p.Ends) (hf : ∀ a, (f a).Ends) :
    (p.bind f).Ends := by
  induction p with
  | done a => exact hf a
  | halt => exact hp
  | step u k ih => exact fun s => ih s (hp s)
  | note o k ih => exact ih hp
  | lookBack k ih => exact fun past => ih past (hp past)
  | launch j k ih => exact ih hp
  | wait ms k ih => exact ih hp
  | ask q k ih => exact fun a => ih a (hp a)

/-- So does a program with such programs in place of its questions. -/
theorem ends_answer {p : Prog σ δ Q A α} {h : Q → Prog σ δ Q' A' A} (hp : p.Ends)
    (hh : ∀ q, (h q).Ends) : (p.answer h).Ends := by
  induction p with
  | done a => exact trivial
  | halt => exact hp
  | step u k ih => exact fun s => ih s (hp s)
  | note o k ih => exact ih hp
  | lookBack k ih => exact fun past => ih past (hp past)
  | launch j k ih => exact ih hp
  | wait ms k ih => exact ih hp
  | ask q k ih => exact ends_bind (hh q) fun a => ih a (hp a)

theorem ends_observeAll (os : List Observation) : (observeAll os : Prog σ δ Q A Unit).Ends := by
  induction os with
  | nil => exact trivial
  | cons o os ih => exact ih

/-- What an answered program leaves, the program does or an answer does. -/
theorem leaves_of_answer {byJob : δ → Observation → Prop} {o : Observation} {p : Prog σ δ Q A α}
    {h : Q → Prog σ δ Q' A' A} (hleaves : (p.answer h).Leaves byJob o) :
    p.Leaves byJob o ∨ ∃ q, (h q).Leaves byJob o := by
  induction p with
  | done a => cases hleaves
  | halt => cases hleaves
  | step u k ih =>
    cases hleaves with
    | step s hleaves => exact (ih s hleaves).imp (.step s) id
  | note o' k ih =>
    cases hleaves with
    | here => exact Or.inl (.here _ _)
    | note hleaves => exact (ih hleaves).imp .note id
  | lookBack k ih =>
    cases hleaves with
    | lookBack past hleaves => exact (ih past hleaves).imp (.lookBack past) id
  | launch j k ih =>
    cases hleaves with
    | job hjob => exact Or.inl (.job hjob)
    | launch hleaves => exact (ih hleaves).imp .launch id
  | wait ms k ih =>
    cases hleaves with
    | wait hleaves => exact (ih hleaves).imp .wait id
  | ask q k ih =>
    rcases leaves_of_bind hleaves with hq | ⟨a, hk⟩
    · exact Or.inr ⟨q, hq⟩
    · exact (ih a hk).imp (.answered a) id

/-- What is noted in a run, the program leaves. -/
theorem leaves_of_run {byJob : δ → Observation → Prop} {p : Prog σ δ Empty Empty α}
    {acts : List (Action σ δ)} {r : Option α} (h : Run p acts r) {o : Observation}
    (ho : .noted o ∈ acts) : p.Leaves byJob o := by
  induction h with
  | stop p => cases ho
  | done a => cases ho
  | step s _ ih => exact .step s (ih ((List.mem_cons.mp ho).resolve_left nofun))
  | note _ ih =>
    rcases List.mem_cons.mp ho with heq | ho
    · obtain rfl := Action.noted.inj heq
      exact .here _ _
    · exact .note (ih ho)
  | lookBack past _ ih => exact .lookBack past (ih ((List.mem_cons.mp ho).resolve_left nofun))
  | launch _ ih => exact .launch (ih ((List.mem_cons.mp ho).resolve_left nofun))
  | wait _ ih => exact .wait (ih ((List.mem_cons.mp ho).resolve_left nofun))
  | @asked q => exact q.elim
  | @answered q => exact q.elim

/-- The entries that actions leave in the record, in order. -/
def entries (acts : List (Action σ δ)) : List Observation := acts.flatMap Action.entries

/-- The entries that actions leave are those that they note. -/
theorem mem_entries {acts : List (Action σ δ)} {o : Observation} :
    o ∈ entries acts ↔ .noted o ∈ acts := by
  rw [entries, List.mem_flatMap]
  constructor
  · rintro ⟨act, hact, ho⟩
    cases act with
    | noted o' =>
      obtain rfl := List.mem_singleton.mp ho
      exact hact
    | _ => cases ho
  · intro h
    exact ⟨_, h, List.mem_singleton.mpr rfl⟩

/-- Each action of the list finds the state as the one before it left it; from the first state they lead to
    the second. -/
def Threads : σ → List (Action σ δ) → σ → Prop
  | s, [], s' => s = s'
  | s, .changed before after :: acts, s' => before = s ∧ Threads after acts s'
  | s, .noted _ :: acts, s' | s, .lookedBack _ :: acts, s' | s, .launched _ :: acts, s'
  | s, .waited _ :: acts, s' => Threads s acts s'

/-- A run of a program that leaves nothing that is seen shows nothing that is seen. -/
theorem filter_entries_of_unseen {seen : Observation → Bool} {p : Flow σ Empty Empty α}
    (hp : ∀ o, p.Leaves Job.Leaves o → seen o = false) {acts : List (Action σ Job)} {r : Option α}
    (h : Run p acts r) : (entries acts).filter seen = [] := by
  refine List.filter_eq_nil_iff.mpr fun o ho => ?_
  rw [hp o (leaves_of_run h (mem_entries.mp ho))]
  exact Bool.false_ne_true

/-- A program that leaves nothing that is seen starts no job that does. -/
theorem startsOnly_of_unseen {seen : Observation → Bool} {p : Flow σ Q A α}
    (hp : ∀ o, p.Leaves Job.Leaves o → seen o = false) : p.StartsOnly (Job.Unseen seen) := by
  induction p with
  | done a => exact trivial
  | halt => exact trivial
  | step u k ih => exact fun s => ih s fun o h => hp o (.step s h)
  | note o k ih => exact ih fun o h => hp o (.note h)
  | lookBack k ih => exact fun past => ih past fun o h => hp o (.lookBack past h)
  | launch j k ih => exact ⟨fun o h => hp o (.job h), ih fun o h => hp o (.launch h)⟩
  | wait ms k ih => exact ih fun o h => hp o (.wait h)
  | ask q k ih => exact fun a => ih a fun o h => hp o (.answered a h)

end Prog

/-! ## One program on a machine -/

namespace Machine

variable {σ α : Type} {seen : Observation → Bool} {m m' : Machine σ}

/-- A program that ends comes to something, whatever else the machine does. -/
theorem run_of_ends {p : Flow σ Empty Empty α} (h : p.Ends) (m : Machine σ) :
    ∃ a m', run p m = (some a, m') := by
  induction p generalizing m with
  | done a => exact ⟨a, m, rfl⟩
  | halt => exact h.elim
  | step u k ih => exact ih m.state (h m.state) _
  | note o k ih => exact ih h _
  | lookBack k ih => exact ih m.past (h m.past) m
  | launch j k ih => exact ih h _
  | wait ms k ih => exact ih h _
  | ask q => exact q.elim

/-- None of the jobs leaves an entry that is seen. -/
def Quiet (seen : Observation → Bool) (m : Machine σ) : Prop := ∀ p ∈ m.jobs, p.job.Unseen seen

/-- Jobs are like none at all if nothing that they leave is seen. -/
theorem jobsLike_nil_iff {l : List Pending} :
    JobsLike seen l [] ↔ ∀ p ∈ l, p.job.Unseen seen := by
  induction l with
  | nil => exact ⟨fun _ p hp => (nomatch hp), fun _ => .nil⟩
  | cons p l ih =>
    rw [List.forall_mem_cons, ← ih]
    constructor
    · intro h
      cases h with
      | added hp h => exact ⟨hp, h⟩
    · rintro ⟨hp, h⟩
      exact .added hp h

/-- Without jobs nothing happens while time passes. -/
theorem pass_of_no_jobs (h : m.jobs = []) (ms : Nat) : m.pass ms = m := by
  obtain ⟨state, past, jobs⟩ := m
  obtain rfl : jobs = [] := h
  induction ms with
  | zero => rfl
  | succ ms ih => exact ih

/-- **While time passes, jobs that leave nothing that is seen change nothing that is seen.** -/
theorem pass_of_quiet (h : m.Quiet seen) (ms : Nat) :
    (m.pass ms).state = m.state ∧ (m.pass ms).past.filter seen = m.past.filter seen ∧
      (m.pass ms).Quiet seen := by
  -- the machine is like the one without its jobs, on which nothing happens
  have hlike : Like id seen m { m with jobs := [] } := ⟨rfl, rfl, jobsLike_nil_iff.mpr h⟩
  have hpass := hlike.pass ms
  rw [pass_of_no_jobs (m := { m with jobs := [] }) rfl] at hpass
  exact ⟨hpass.state, hpass.past, jobsLike_nil_iff.mp hpass.jobs⟩

/-- The state is left alone while time passes. -/
theorem state_pass (m : Machine σ) (ms : Nat) : (m.pass ms).state = m.state := by
  have hquiet : m.Quiet fun _ => false := fun _ _ _ _ => rfl
  exact (pass_of_quiet hquiet ms).1

/-- What a machine shows of a run: the entries that are seen are those of the run, after those before. -/
structure Tells (seen : Observation → Bool) (m m' : Machine σ) (es : List Observation) : Prop where
  record : m'.record.filter seen = m.record.filter seen ++ es.filter seen
  quiet : m'.Quiet seen

theorem Tells.refl (h : m.Quiet seen) : Tells seen m m [] := ⟨(List.append_nil _).symm, h⟩

/-- What is told of one part of a session is told before what is told of the next. -/
theorem Tells.trans {m'' : Machine σ} {es es' : List Observation} (h : Tells seen m m' es)
    (h' : Tells seen m' m'' es') : Tells seen m m'' (es ++ es') where
  record := by rw [h'.record, h.record, List.filter_append, List.append_assoc]
  quiet := h'.quiet

/-- An entry that the main program leaves is told. -/
theorem tells_note (h : m.Quiet seen) (o : Observation) :
    Tells seen m { m with past := o :: m.past } [o] where
  record := by
    show (o :: m.past).reverse.filter seen = m.past.reverse.filter seen ++ _
    rw [List.reverse_cons, List.filter_append]
  quiet := h

/-- While time passes nothing is told that is seen. -/
theorem tells_pass (h : m.Quiet seen) (ms : Nat) : Tells seen m (m.pass ms) [] := by
  obtain ⟨-, hpast, hquiet⟩ := pass_of_quiet h ms
  refine ⟨?_, hquiet⟩
  show (m.pass ms).past.reverse.filter seen = m.past.reverse.filter seen ++ []
  rw [List.filter_reverse, List.filter_reverse, hpast, List.append_nil]

/-- **What a machine does to run a program is a run of the program**, one in which the state is left alone
    between the actions; and of the entries that are seen the machine shows those of the run. -/
theorem run_told {p : Flow σ Empty Empty α} (hp : p.StartsOnly (Job.Unseen seen)) (hm : m.Quiet seen)
    {a : α} (h : run p m = (some a, m')) :
    ∃ acts, Prog.Run p acts (some a) ∧ Prog.Threads m.state acts m'.state ∧
      Tells seen m m' (Prog.entries acts) := by
  induction p generalizing m with
  | done b =>
    obtain ⟨hvalue, rfl⟩ := Prod.mk.inj h
    obtain rfl := Option.some.inj hvalue
    exact ⟨[], .done b, rfl, .refl hm⟩
  | halt => cases (Prod.mk.inj h).1
  | step u k ih =>
    obtain ⟨acts, hrun, hthreads, htells⟩ :=
      ih m.state (m := { m with state := u m.state }) (hp m.state) hm h
    exact ⟨_, .step m.state hrun, ⟨rfl, hthreads⟩, htells.record, htells.quiet⟩
  | note o k ih =>
    have hnote := tells_note hm o
    obtain ⟨acts, hrun, hthreads, htells⟩ := ih hp hnote.quiet h
    exact ⟨_, .note hrun, hthreads, hnote.trans htells⟩
  | lookBack k ih =>
    obtain ⟨acts, hrun, hthreads, htells⟩ := ih m.past (hp m.past) hm h
    exact ⟨_, .lookBack m.past hrun, hthreads, htells⟩
  | launch j k ih =>
    have hjobs : Quiet seen { m with jobs := m.jobs ++ [⟨0, j⟩] } :=
      List.forall_mem_append.mpr ⟨hm, List.forall_mem_singleton.mpr hp.1⟩
    obtain ⟨acts, hrun, hthreads, htells⟩ := ih hp.2 hjobs h
    exact ⟨_, .launch hrun, hthreads, htells.record, htells.quiet⟩
  | wait ms k ih =>
    have hpass := tells_pass hm ms
    obtain ⟨acts, hrun, hthreads, htells⟩ := ih hp hpass.quiet h
    rw [state_pass] at hthreads
    exact ⟨_, .wait hrun, hthreads, hpass.trans htells⟩
  | ask q => exact q.elim

/-- **A program that ends comes to something on any machine**, and by a run of its own. -/
theorem exists_run_of_ends {p : Flow σ Empty Empty α} (h : p.Ends) (m : Machine σ) :
    ∃ a m' acts, run p m = (some a, m') ∧ Prog.Run p acts (some a) := by
  obtain ⟨a, m', hrun⟩ := run_of_ends h m
  -- no entry is looked for, so the jobs on the machine make no difference
  have hquiet : m.Quiet fun _ => false := fun _ _ _ _ => rfl
  obtain ⟨acts, hacts, -⟩ := run_told (Prog.startsOnly_of_unseen fun _ _ => rfl) hquiet hrun
  exact ⟨a, m', acts, hrun, hacts⟩

/-! ## Sessions -/

/-- Run programs one after the other; after each, some milliseconds pass. -/
def runAll : List (Flow σ Empty Empty α × Nat) → Machine σ → List (Option α) × Machine σ
  | [], m => ([], m)
  | (p, ms) :: rest, m =>
    let ran := run p m
    let others := runAll rest (ran.2.pass ms)
    (ran.1 :: others.1, others.2)

/-- The first program of a session, and then the others. -/
theorem runAll_cons_of_run {p : Flow σ Empty Empty α × Nat} {ps : List (Flow σ Empty Empty α × Nat)}
    {m₁ : Machine σ} {a : α} {as : List α} (hp : run p.1 m = (some a, m₁))
    (hps : runAll ps (m₁.pass p.2) = (as.map some, m')) :
    runAll (p :: ps) m = ((a :: as).map some, m') := by
  rw [runAll, hp, hps]
  rfl

/-- A session whose programs all end comes to something. -/
theorem runAll_of_ends {ps : List (Flow σ Empty Empty α × Nat)} (hps : ∀ p ∈ ps, p.1.Ends) (m : Machine σ) :
    ∃ (as : List α) (m' : Machine σ), runAll ps m = (as.map some, m') := by
  induction ps generalizing m with
  | nil => exact ⟨[], m, rfl⟩
  | cons p ps ih =>
    obtain ⟨hp, hrest⟩ := List.forall_mem_cons.mp hps
    obtain ⟨a, m₁, hrun⟩ := run_of_ends hp m
    obtain ⟨as, m₂, hothers⟩ := ih hrest (m₁.pass p.2)
    exact ⟨a :: as, m₂, runAll_cons_of_run hrun hothers⟩

/-- **A session whose programs all end is a run of each**, and of the entries that are seen it shows theirs,
    in order. -/
theorem runAll_told {ps : List (Flow σ Empty Empty α × Nat)}
    (hps : ∀ p ∈ ps, p.1.StartsOnly (Job.Unseen seen)) (hm : m.Quiet seen) {as : List α}
    (h : runAll ps m = (as.map some, m')) :
    ∃ told : List (List (Prog.Action σ Job) × α), told.map Prod.snd = as ∧
      List.Forall₂ (fun p t => Prog.Run p.1 t.1 (some t.2)) ps told ∧
      Tells seen m m' (told.flatMap fun t => Prog.entries t.1) := by
  induction ps generalizing m as with
  | nil =>
    obtain ⟨has, rfl⟩ := Prod.mk.inj h
    obtain rfl : as = [] := List.map_eq_nil_iff.mp has.symm
    exact ⟨[], rfl, .nil, .refl hm⟩
  | cons p ps ih =>
    obtain ⟨p, ms⟩ := p
    obtain ⟨hp, hrest⟩ := List.forall_mem_cons.mp hps
    obtain ⟨has, hmachine⟩ := Prod.mk.inj h
    obtain ⟨a, as, rfl, hvalue, hothers⟩ := List.map_eq_cons_iff.mp has.symm
    obtain ⟨acts, hrun, -, htells⟩ := run_told hp hm (Prod.ext hvalue.symm rfl)
    have hpass := tells_pass htells.quiet ms
    obtain ⟨told, rfl, hruns, hlater⟩ := ih hrest hpass.quiet (Prod.ext hothers.symm hmachine)
    refine ⟨(acts, a) :: told, rfl, .cons hrun hruns, ?_⟩
    have hall := htells.trans (hpass.trans hlater)
    rw [List.nil_append] at hall
    exact hall

end Machine
end Switchyard
