import Switchyard.Program.Basic

/-!
  Programs with additions that nobody looks at.

  A program may leave entries in the record (`Leaves`), and read it.  Of the entries some are seen and
  the others are not; a program that only goes by those that are seen is said to read only them
  (`ReadsOnly`).

  One program is another with additions (`Adorned`) if it does all that the other does, in the same
  order, and besides that leaves entries that are not seen, starts jobs that leave no others, and keeps
  things in the state that the other does not have.  What is added takes no time, and the program comes to
  the same value.

  * `Adorned.bind`, `Adorned.answer` — additions to the parts are additions to the whole;
  * `readsOnly_bind`, `readsOnly_answer` — a whole reads what its parts read.
-/

namespace Switchyard

namespace Prog

variable {σ σ' δ Q A Q' A' α β : Type}

/-- The entries that a program may leave, itself or by a job that it starts. -/
inductive Leaves (byJob : δ → Observation → Prop) : Prog σ δ Q A α → Observation → Prop where
  | here (o : Observation) (k : Prog σ δ Q A α) : Leaves byJob (.note o k) o
  | job {j k o} (h : byJob j o) : Leaves byJob (.launch j k) o
  | step {u k o} (s : σ) (h : Leaves byJob (k s) o) : Leaves byJob (.step u k) o
  | note {o' k o} (h : Leaves byJob k o) : Leaves byJob (.note o' k) o
  | lookBack {k o} (past : List Observation) (h : Leaves byJob (k past) o) :
      Leaves byJob (.lookBack k) o
  | launch {j k o} (h : Leaves byJob k o) : Leaves byJob (.launch j k) o
  | wait {ms k o} (h : Leaves byJob k o) : Leaves byJob (.wait ms k) o
  | answered {q k o} (a : A) (h : Leaves byJob (k a) o) : Leaves byJob (.ask q k) o

/-- The program goes by the seen entries of the record only; so do the jobs that it starts. -/
def ReadsOnly (seen : Observation → Bool) (ofJob : δ → Prop) : Prog σ δ Q A α → Prop
  | done _ | halt => True
  | step _ k => ∀ s, ReadsOnly seen ofJob (k s)
  | note _ k | wait _ k => ReadsOnly seen ofJob k
  | lookBack k =>
    (∀ past past', past.filter seen = past'.filter seen → k past = k past') ∧
      ∀ past, ReadsOnly seen ofJob (k past)
  | launch j k => ofJob j ∧ ReadsOnly seen ofJob k
  | ask _ k => ∀ a, ReadsOnly seen ofJob (k a)

end Prog

/-- The entries that a job may leave. -/
def Job.Leaves (j : Job) (o : Observation) : Prop := Prog.Leaves (fun e _ => nomatch e) j.body o

/-- No entry is seen that a job may leave. -/
def Job.Unseen (seen : Observation → Bool) (j : Job) : Prop := ∀ o, j.Leaves o → seen o = false

/-- The job goes by the seen entries of the record only. -/
def Job.ReadsOnly (seen : Observation → Bool) (j : Job) : Prop :=
  Prog.ReadsOnly seen (fun e => nomatch e) j.body

namespace Prog

variable {σ σ' δ Q A Q' A' α β : Type}

/-! ## What programs leave -/

section Leaves

variable {byJob : δ → Observation → Prop} {o : Observation}

/-- What two programs in a row leave, one of them does. -/
theorem leaves_of_bind {p : Prog σ δ Q A α} {f : α → Prog σ δ Q A β} (h : (p.bind f).Leaves byJob o) :
    p.Leaves byJob o ∨ ∃ a, (f a).Leaves byJob o := by
  induction p with
  | done a => exact Or.inr ⟨a, h⟩
  | halt => nomatch h
  | step u k ih =>
    cases h with
    | step s h => exact (ih s h).imp (.step s) id
  | note o' k ih =>
    cases h with
    | here => exact Or.inl (.here _ _)
    | note h => exact (ih h).imp .note id
  | lookBack k ih =>
    cases h with
    | lookBack past h => exact (ih past h).imp (.lookBack past) id
  | launch j k ih =>
    cases h with
    | job h => exact Or.inl (.job h)
    | launch h => exact (ih h).imp .launch id
  | wait ms k ih =>
    cases h with
    | wait h => exact (ih h).imp .wait id
  | ask q k ih =>
    cases h with
    | answered a h => exact (ih a h).imp (.answered a) id

theorem mem_of_leaves_observeAll {os : List Observation}
    (h : (observeAll os : Prog σ δ Q A Unit).Leaves byJob o) : o ∈ os := by
  induction os with
  | nil => nomatch h
  | cons o' os ih =>
    cases h with
    | here => exact List.mem_cons_self
    | note h => exact List.mem_cons_of_mem _ (ih h)

end Leaves

/-- What a computation leaves within a bound on its time, it leaves. -/
theorem leaves_of_within {ms : Nat} {b : Background α} {o : Observation}
    (h : (b.within ms).Leaves (fun e _ => nomatch e) o) : b.Leaves (fun e _ => nomatch e) o := by
  induction b generalizing ms with
  | done a => nomatch h
  | halt =>
    cases h with
    | wait h => nomatch h
  | step u k ih =>
    cases h with
    | step s h => exact .step s (ih s h)
  | note o' k ih =>
    cases h with
    | here => exact .here _ _
    | note h => exact .note (ih h)
  | lookBack k ih =>
    cases h with
    | lookBack past h => exact .lookBack past (ih past h)
  | launch j k ih => exact j.elim
  | wait d k ih =>
    rw [within] at h
    by_cases hd : d ≤ ms
    · rw [if_pos hd] at h
      cases h with
      | wait h => exact .wait (ih h)
    · rw [if_neg hd] at h
      cases h with
      | wait h => nomatch h
  | ask q k ih => exact q.elim

/-! ## What programs read -/

theorem readsOnly_bind {seen : Observation → Bool} {ofJob : δ → Prop} {p : Prog σ δ Q A α}
    {f : α → Prog σ δ Q A β} (hp : p.ReadsOnly seen ofJob) (hf : ∀ a, (f a).ReadsOnly seen ofJob) :
    (p.bind f).ReadsOnly seen ofJob := by
  induction p with
  | done a => exact hf a
  | halt => exact trivial
  | step u k ih => exact fun s => ih s (hp s)
  | note o k ih => exact ih hp
  | lookBack k ih =>
    exact ⟨fun past past' h => congrArg (fun p => bind p f) (hp.1 past past' h),
      fun past => ih past (hp.2 past)⟩
  | launch j k ih => exact ⟨hp.1, ih hp.2⟩
  | wait ms k ih => exact ih hp
  | ask q k ih => exact fun a => ih a (hp a)

theorem readsOnly_answer {seen : Observation → Bool} {ofJob : δ → Prop} {p : Prog σ δ Q A α}
    {h : Q → Prog σ δ Q' A' A} (hp : p.ReadsOnly seen ofJob)
    (hh : ∀ q, (h q).ReadsOnly seen ofJob) : (p.answer h).ReadsOnly seen ofJob := by
  induction p with
  | done a => exact trivial
  | halt => exact trivial
  | step u k ih => exact fun s => ih s (hp s)
  | note o k ih => exact ih hp
  | lookBack k ih =>
    exact ⟨fun past past' hpast => congrArg (answer h) (hp.1 past past' hpast),
      fun past => ih past (hp.2 past)⟩
  | launch j k ih => exact ⟨hp.1, ih hp.2⟩
  | wait ms k ih => exact ih hp
  | ask q k ih => exact readsOnly_bind (hh q) fun a => ih a (hp a)

/-- Where every entry is seen, there is nothing else to go by. -/
theorem readsOnly_all {ofJob : δ → Prop} (hjob : ∀ j, ofJob j) (p : Prog σ δ Q A α) :
    p.ReadsOnly (fun _ => true) ofJob := by
  induction p with
  | done a => exact trivial
  | halt => exact trivial
  | step u k ih => exact ih
  | note o k ih => exact ih
  | lookBack k ih =>
    refine ⟨fun past past' hpast => ?_, ih⟩
    have hall : ∀ past : List Observation, past.filter (fun _ => true) = past :=
      fun past => List.filter_eq_self.mpr fun _ _ => rfl
    rw [hall, hall] at hpast
    rw [hpast]
  | launch j k ih => exact ⟨hjob j, ih⟩
  | wait ms k ih => exact ih
  | ask q k ih => exact ih

/-! ## Programs with additions -/

/-- The first program is the second with additions; `π` takes from the state what the second has. -/
inductive Adorned (π : σ → σ') (seen : Observation → Bool) :
    Flow σ Q A α → Flow σ' Q A α → Prop where
  | done (a : α) : Adorned π seen (.done a) (.done a)
  | halt : Adorned π seen .halt .halt
  | step {u u' k k'} (hu : ∀ s, π (u s) = u' (π s)) (h : ∀ s, Adorned π seen (k s) (k' (π s))) :
      Adorned π seen (.step u k) (.step u' k')
  | note (o : Observation) {k k'} (h : Adorned π seen k k') :
      Adorned π seen (.note o k) (.note o k')
  | lookBack {k k'} (h : ∀ past, Adorned π seen (k past) (k' past)) :
      Adorned π seen (.lookBack k) (.lookBack k')
  | launch (j : Job) {k k'} (h : Adorned π seen k k') :
      Adorned π seen (.launch j k) (.launch j k')
  | wait (ms : Nat) {k k'} (h : Adorned π seen k k') : Adorned π seen (.wait ms k) (.wait ms k')
  | ask (q : Q) {k k'} (h : ∀ a, Adorned π seen (k a) (k' a)) :
      Adorned π seen (.ask q k) (.ask q k')
  /-- An entry is added that is not seen. -/
  | noted {o k p'} (ho : seen o = false) (h : Adorned π seen k p') : Adorned π seen (.note o k) p'
  /-- A job is added that leaves no entry that is seen. -/
  | launched {j k p'} (hj : j.Unseen seen) (h : Adorned π seen k p') :
      Adorned π seen (.launch j k) p'
  /-- Something is kept that the other program does not have. -/
  | kept {u k p'} (hu : ∀ s, π (u s) = π s) (h : ∀ s, Adorned π seen (k s) p') :
      Adorned π seen (.step u k) p'

namespace Adorned

variable {π : σ → σ'} {seen : Observation → Bool}

theorem refl (p : Flow σ Q A α) : Adorned id seen p p := by
  induction p with
  | done a => exact .done a
  | halt => exact .halt
  | step u k ih => exact .step (fun _ => rfl) ih
  | note o k ih => exact .note o ih
  | lookBack k ih => exact .lookBack ih
  | launch j k ih => exact .launch j ih
  | wait ms k ih => exact .wait ms ih
  | ask q k ih => exact .ask q ih

/-- Additions to the parts of a program are additions to the program. -/
theorem bind {p : Flow σ Q A α} {p' : Flow σ' Q A α} (h : Adorned π seen p p')
    {f : α → Flow σ Q A β} {f' : α → Flow σ' Q A β} (hf : ∀ a, Adorned π seen (f a) (f' a)) :
    Adorned π seen (p.bind f) (p'.bind f') := by
  induction h with
  | done a => exact hf a
  | halt => exact .halt
  | step hu _ ih => exact .step hu ih
  | note o _ ih => exact .note o ih
  | lookBack _ ih => exact .lookBack ih
  | launch j _ ih => exact .launch j ih
  | wait ms _ ih => exact .wait ms ih
  | ask q _ ih => exact .ask q ih
  | noted ho _ ih => exact .noted ho ih
  | launched hj _ ih => exact .launched hj ih
  | kept hu _ ih => exact .kept hu ih

/-- What is added once a program is over. -/
theorem bind_left {p : Flow σ Q A α} {p' : Flow σ' Q A α} (h : Adorned π seen p p')
    {f : α → Flow σ Q A α} (hf : ∀ a, Adorned π seen (f a) (.done a)) :
    Adorned π seen (p.bind f) p' := by
  have hbind := h.bind hf
  rw [bind_done] at hbind
  exact hbind

/-- Additions to a program, and to what answers its questions. -/
theorem answer {p : Flow σ Q A α} {p' : Flow σ' Q A α} (h : Adorned π seen p p')
    {g : Q → Flow σ Q' A' A} {g' : Q → Flow σ' Q' A' A} (hg : ∀ q, Adorned π seen (g q) (g' q)) :
    Adorned π seen (p.answer g) (p'.answer g') := by
  induction h with
  | done a => exact .done a
  | halt => exact .halt
  | step hu _ ih => exact .step hu ih
  | note o _ ih => exact .note o ih
  | lookBack _ ih => exact .lookBack ih
  | launch j _ ih => exact .launch j ih
  | wait ms _ ih => exact .wait ms ih
  | ask q _ ih => exact (hg q).bind ih
  | noted ho _ ih => exact .noted ho ih
  | launched hj _ ih => exact .launched hj ih
  | kept hu _ ih => exact .kept hu ih

end Adorned

end Prog
end Switchyard
