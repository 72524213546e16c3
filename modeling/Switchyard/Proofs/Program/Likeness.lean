import Switchyard.Program.Machine
import Switchyard.Proofs.Program.Adorned

/-!
  Running a program with additions beside the program without them.

  Two machines are alike if they agree on what is seen: on the state, as far as the second has it, on the
  entries of the record that are seen, and on the jobs, apart from some of the first machine that leave no
  such entry (`Machine.Like`).

  1. **One job.**  A job that both machines have reads only what is seen, so that it goes on alike on both
     (`like_advance_same`); a job that only the first one has leaves nothing that is seen (`like_advance_added`).

  2. **Time.**  So settling keeps machines alike, by induction on their jobs, and so does letting time pass,
     however the jobs interleave (`Like.settle`, `Like.pass`).

  3. **Programs.**  And so does every action of a program with additions.  The main statement is `Adorned.run`: a
     program that only reads what is seen comes to the same value with the additions, on machines that are alike; it
     waits as often and as long (`Machine.waits`), and leaves the machines alike.
-/

namespace Switchyard

/-- The first list of jobs is the second with jobs added that leave no entry that is seen. -/
inductive JobsLike (seen : Observation → Bool) : List Pending → List Pending → Prop where
  | nil : JobsLike seen [] []
  | same {p l l'} (hp : p.job.ReadsOnly seen) (h : JobsLike seen l l') :
      JobsLike seen (p :: l) (p :: l')
  | added {p l l'} (hp : p.job.Unseen seen) (h : JobsLike seen l l') :
      JobsLike seen (p :: l) l'

/-- The machines agree on what is seen; `π` takes from the state what the second has. -/
structure Machine.Like {σ σ' : Type} (π : σ → σ') (seen : Observation → Bool) (m : Machine σ)
    (m' : Machine σ') : Prop where
  state : π m.state = m'.state
  past : m.past.filter seen = m'.past.filter seen
  jobs : JobsLike seen m.jobs m'.jobs

namespace JobsLike

variable {seen : Observation → Bool} {l l' r r' : List Pending}

/-- Lists of jobs that are alike may be put one after the other. -/
theorem append (h : JobsLike seen l l') (hr : JobsLike seen r r') :
    JobsLike seen (l ++ r) (l' ++ r') := by
  induction h with
  | nil => exact hr
  | same hp _ ih => exact .same hp ih
  | added hp _ ih => exact .added hp ih

/-- A job that is started on both sides reads only what is seen. -/
theorem append_same (h : JobsLike seen l l') {p : Pending} (hp : p.job.ReadsOnly seen) :
    JobsLike seen (l ++ [p]) (l' ++ [p]) := h.append (.same hp .nil)

/-- A job that is started on one side only leaves nothing that is seen. -/
theorem append_added (h : JobsLike seen l l') {p : Pending} (hp : p.job.Unseen seen) :
    JobsLike seen (l ++ [p]) l' := by
  have happend := h.append (.added hp .nil)
  rw [List.append_nil] at happend
  exact happend

/-- Jobs that only read what is seen, with none added. -/
theorem refl (hl : ∀ p ∈ l, p.job.ReadsOnly seen) : JobsLike seen l l := by
  induction l with
  | nil => exact .nil
  | cons p l ih =>
    obtain ⟨hp, hrest⟩ := List.forall_mem_cons.mp hl
    exact .same hp (ih hrest)

theorem map (h : JobsLike seen l l') {g : Pending → Pending} (hg : ∀ p, (g p).job = p.job) :
    JobsLike seen (l.map g) (l'.map g) := by
  induction h with
  | nil => exact .nil
  | @same p l l' hp _ ih =>
    rw [← hg p] at hp
    exact .same hp ih
  | @added p l l' hp _ ih =>
    rw [← hg p] at hp
    exact .added hp ih

end JobsLike

/-! ## One job -/

namespace Prog

variable {seen : Observation → Bool}

/-- A job that leaves no entry that is seen: as far as it goes it leaves none, and it goes on like this. -/
theorem advance_unseen {b : Background Unit} (hb : ∀ o, Leaves (fun e _ => nomatch e) b o → seen o = false)
    (past : List Observation) :
    (b.advance past).2.filter seen = past.filter seen ∧
      ∀ ms b', (b.advance past).1 = .asleep ms b' →
        ∀ o, Leaves (fun e _ => nomatch e) b' o → seen o = false := by
  induction b generalizing past with
  | done a => exact ⟨rfl, fun _ _ h => nomatch h⟩
  | halt => exact ⟨rfl, fun _ _ h => nomatch h⟩
  | step u k ih => exact ih () (fun o ho => hb o (.step () ho)) past
  | note o k ih =>
    obtain ⟨hpast, hrest⟩ := ih (fun o' ho' => hb o' (.note ho')) (o :: past)
    refine ⟨?_, hrest⟩
    show (k.advance (o :: past)).2.filter seen = past.filter seen
    have hunseen : ¬ seen o = true := Bool.eq_false_iff.mp (hb o (.here o k))
    rw [hpast, List.filter_cons_of_neg hunseen]
  | lookBack k ih => exact ih past (fun o ho => hb o (.lookBack past ho)) past
  | launch j k ih => exact j.elim
  | wait ms k ih =>
    rw [advance]
    by_cases hms : ms = 0
    · rw [if_pos hms]
      exact ih (fun o ho => hb o (.wait ho)) past
    · rw [if_neg hms]
      refine ⟨rfl, fun ms' b' h o ho => ?_⟩
      obtain ⟨-, rfl⟩ := Rest.asleep.inj h
      exact hb o (.wait ho)
  | ask q k ih => exact q.elim

/-- A job that only reads what is seen does the same where the same is seen. -/
theorem advance_readsOnly {b : Background Unit} (hb : b.ReadsOnly seen fun e => nomatch e)
    {past past' : List Observation} (h : past.filter seen = past'.filter seen) :
    (b.advance past).1 = (b.advance past').1 ∧
      (b.advance past).2.filter seen = (b.advance past').2.filter seen ∧
      ∀ ms b', (b.advance past).1 = .asleep ms b' → b'.ReadsOnly seen fun e => nomatch e := by
  induction b generalizing past past' with
  | done a => exact ⟨rfl, h, fun _ _ h => nomatch h⟩
  | halt => exact ⟨rfl, h, fun _ _ h => nomatch h⟩
  | step u k ih => exact ih () (hb ()) h
  | note o k ih =>
    refine ih hb ?_
    rw [List.filter_cons, List.filter_cons, h]
  | lookBack k ih =>
    have hsame : k past = k past' := hb.1 past past' h
    show ((k past).advance past).1 = ((k past').advance past').1 ∧
      ((k past).advance past).2.filter seen = ((k past').advance past').2.filter seen ∧
      ∀ ms b', ((k past).advance past).1 = .asleep ms b' → _
    rw [← hsame]
    exact ih past (hb.2 past) h
  | launch j k ih => exact j.elim
  | wait ms k ih =>
    rw [advance, advance]
    by_cases hms : ms = 0
    · rw [if_pos hms, if_pos hms]
      exact ih hb h
    · rw [if_neg hms, if_neg hms]
      refine ⟨rfl, h, fun ms' b' hrest => ?_⟩
      obtain ⟨-, rfl⟩ := Rest.asleep.inj hrest
      exact hb
  | ask q k ih => exact q.elim

end Prog

/-! ## Time passing -/

namespace Machine

variable {σ σ' : Type} {π : σ → σ'} {seen : Observation → Bool} {m : Machine σ} {m' : Machine σ'}

/-- What a job becomes once it was run, at the end of the others. -/
def rested (m : Machine σ) (job : Job) : Rest × List Observation → Machine σ
  | (.over, past) => { m with past := past }
  | (.asleep ms body, past) =>
    { m with past := past, jobs := m.jobs ++ [⟨ms, { job with body := body }⟩] }

/-- A job that is due goes as far as it can, and the rest is settled after it. -/
theorem settleFrom_due {p : Pending} (hdue : p.due = 0) (rest : List Pending) :
    m.settleFrom (p :: rest) = (m.rested p.job (p.job.body.advance m.past)).settleFrom rest := by
  rw [settleFrom, if_pos hdue]
  match p.job.body.advance m.past with
  | (.over, past) => rfl
  | (.asleep ms body, past) => rfl

/-- A job that is not due stays as it is. -/
theorem settleFrom_not_due {p : Pending} (hdue : p.due ≠ 0) (rest : List Pending) :
    m.settleFrom (p :: rest) = settleFrom { m with jobs := m.jobs ++ [p] } rest := by
  rw [settleFrom, if_neg hdue]

/-- A job that is due on both machines keeps them alike. -/
theorem like_advance_same (h : Like π seen m m') {j : Job} (hj : j.ReadsOnly seen) :
    Like π seen (m.rested j (j.body.advance m.past)) (m'.rested j (j.body.advance m'.past)) := by
  obtain ⟨hrest, hpast, hbody⟩ := Prog.advance_readsOnly hj h.past
  cases hadvance : j.body.advance m.past with
  | mk r past =>
  cases hadvance' : j.body.advance m'.past with
  | mk r' past' =>
  rw [hadvance, hadvance'] at hrest hpast
  rw [hadvance] at hbody
  obtain rfl : r = r' := hrest
  match r, hbody with
  | .over, _ => exact ⟨h.state, hpast, h.jobs⟩
  | .asleep ms body, hbody => exact ⟨h.state, hpast, h.jobs.append_same (hbody ms body rfl)⟩

/-- A job that was added keeps the machines alike. -/
theorem like_advance_added (h : Like π seen m m') {j : Job} (hj : j.Unseen seen) :
    Like π seen (m.rested j (j.body.advance m.past)) m' := by
  obtain ⟨hpast, hbody⟩ := Prog.advance_unseen hj m.past
  cases hadvance : j.body.advance m.past with
  | mk r past =>
  rw [hadvance] at hpast hbody
  match r, hbody with
  | .over, _ => exact ⟨h.state, hpast.trans h.past, h.jobs⟩
  | .asleep ms body, hbody =>
    exact ⟨h.state, hpast.trans h.past, h.jobs.append_added (hbody ms body rfl)⟩

/-- **Settling keeps machines alike**: what only one of them has to settle is not seen. -/
theorem Like.settleFrom {l l' : List Pending} (hl : JobsLike seen l l') (h : Like π seen m m') :
    Like π seen (m.settleFrom l) (m'.settleFrom l') := by
  -- along the jobs: one that both machines have is put last on both again, with what is left of it, and
  -- one that was added is put last on the first
  induction hl generalizing m m' with
  | nil => exact h
  | @same p l l' hp _ ih =>
    by_cases hdue : p.due = 0
    · rw [settleFrom_due hdue, settleFrom_due hdue]
      exact ih (like_advance_same h hp)
    · rw [settleFrom_not_due hdue, settleFrom_not_due hdue]
      exact ih ⟨h.state, h.past, h.jobs.append_same hp⟩
  | @added p l l' hp _ ih =>
    by_cases hdue : p.due = 0
    · rw [settleFrom_due hdue]
      exact ih (like_advance_added h hp)
    · rw [settleFrom_not_due hdue]
      exact ih ⟨h.state, h.past, h.jobs.append_added hp⟩

theorem Like.settle (h : Like π seen m m') : Like π seen m.settle m'.settle :=
  Like.settleFrom h.jobs ⟨h.state, h.past, .nil⟩

/-- Nor does a millisecond make a difference. -/
theorem Like.tick (h : Like π seen m m') : Like π seen m.tick m'.tick :=
  ⟨h.state, h.past, h.jobs.map fun _ => rfl⟩

/-- **Time passes alike**, whatever the jobs that were added do meanwhile. -/
theorem Like.pass (h : Like π seen m m') (ms : Nat) : Like π seen (m.pass ms) (m'.pass ms) := by
  induction ms generalizing m m' with
  | zero => exact h.settle
  | succ ms ih => exact ih h.settle.tick

end Machine

/-! ## Programs -/

/-- How long a program waits, each time that it waits, when it is run. -/
def Machine.waits {σ α : Type} : Flow σ Empty Empty α → Machine σ → List Nat
  | .done _, _ => []
  | .step u k, m => waits (k m.state) { m with state := u m.state }
  | .note o k, m => waits k { m with past := o :: m.past }
  | .lookBack k, m => waits (k m.past) m
  | .launch j k, m => waits k { m with jobs := m.jobs ++ [⟨0, j⟩] }
  | .wait ms k, m => ms :: waits k (m.pass ms)
  | .halt, _ => []
  | .ask q _, _ => nomatch q

/-- A run comes to the same as another: to the same value, after the same waiting, and it leaves the
    machines alike. -/
structure SameRun {σ σ' α : Type} (π : σ → σ') (seen : Observation → Bool) (p : Flow σ Empty Empty α)
    (m : Machine σ) (p' : Flow σ' Empty Empty α) (m' : Machine σ') : Prop where
  value : (Machine.run p m).1 = (Machine.run p' m').1
  waits : Machine.waits p m = Machine.waits p' m'
  like : Machine.Like π seen (Machine.run p m).2 (Machine.run p' m').2

namespace Prog.Adorned

open Machine

variable {σ σ' α : Type} {π : σ → σ'} {seen : Observation → Bool}

/-- **A program that only reads what is seen runs alike with additions**, on machines that are alike. -/
theorem run {p : Flow σ Empty Empty α} {p' : Flow σ' Empty Empty α} (h : Adorned π seen p p')
    (hp' : p'.ReadsOnly seen (Job.ReadsOnly seen)) {m : Machine σ} {m' : Machine σ'}
    (hm : Like π seen m m') : SameRun π seen p m p' m' := by
  induction h generalizing m m' with
  | done a => exact ⟨rfl, rfl, hm⟩
  | halt => exact ⟨rfl, rfl, hm⟩
  | @step u u' k k' hu _ ih =>
    have hstate : π (u m.state) = u' m'.state := by rw [hu, hm.state]
    have hlike : Like π seen { m with state := u m.state } { m' with state := u' m'.state } :=
      ⟨hstate, hm.past, hm.jobs⟩
    obtain ⟨hvalue, hwaits, hrest⟩ := ih m.state (hp' (π m.state)) hlike
    rw [hm.state] at hvalue hwaits hrest
    exact ⟨hvalue, hwaits, hrest⟩
  | note o _ ih =>
    have hlike : Like π seen { m with past := o :: m.past } { m' with past := o :: m'.past } :=
      ⟨hm.state, by rw [List.filter_cons, List.filter_cons, hm.past], hm.jobs⟩
    obtain ⟨hvalue, hwaits, hrest⟩ := ih hp' hlike
    exact ⟨hvalue, hwaits, hrest⟩
  | @lookBack k k' _ ih =>
    -- the second program may find another record, but goes on as if it had found this one
    have hsame : k' m.past = k' m'.past := hp'.1 m.past m'.past hm.past
    obtain ⟨hvalue, hwaits, hrest⟩ := ih m.past (hp'.2 m.past) hm
    rw [hsame] at hvalue hwaits hrest
    exact ⟨hvalue, hwaits, hrest⟩
  | launch j _ ih =>
    have hlike : Like π seen { m with jobs := m.jobs ++ [⟨0, j⟩] }
        { m' with jobs := m'.jobs ++ [⟨0, j⟩] } :=
      ⟨hm.state, hm.past, hm.jobs.append_same hp'.1⟩
    obtain ⟨hvalue, hwaits, hrest⟩ := ih hp'.2 hlike
    exact ⟨hvalue, hwaits, hrest⟩
  | wait ms _ ih =>
    obtain ⟨hvalue, hwaits, hrest⟩ := ih hp' (hm.pass ms)
    exact ⟨hvalue, congrArg (List.cons ms) hwaits, hrest⟩
  | ask q => exact q.elim
  | @noted o k p' ho _ ih =>
    have hlike : Like π seen { m with past := o :: m.past } m' :=
      ⟨hm.state, by rw [List.filter_cons_of_neg (Bool.eq_false_iff.mp ho), hm.past], hm.jobs⟩
    obtain ⟨hvalue, hwaits, hrest⟩ := ih hp' hlike
    exact ⟨hvalue, hwaits, hrest⟩
  | @launched j k p' hj _ ih =>
    have hlike : Like π seen { m with jobs := m.jobs ++ [⟨0, j⟩] } m' :=
      ⟨hm.state, hm.past, hm.jobs.append_added hj⟩
    obtain ⟨hvalue, hwaits, hrest⟩ := ih hp' hlike
    exact ⟨hvalue, hwaits, hrest⟩
  | @kept u k p' hu _ ih =>
    have hlike : Like π seen { m with state := u m.state } m' :=
      ⟨(hu m.state).trans hm.state, hm.past, hm.jobs⟩
    obtain ⟨hvalue, hwaits, hrest⟩ := ih m.state hp' hlike
    exact ⟨hvalue, hwaits, hrest⟩

end Prog.Adorned
end Switchyard
