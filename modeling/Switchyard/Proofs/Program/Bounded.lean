import Mathlib.Algebra.Ring.Nat
import Switchyard.Proofs.Program.Adorned
import Switchyard.Proofs.Program.Runs

/-!
  Background computations and the time that they take.

  A computation takes the time that it waits (`elapsed`).  It acts one action after the other (`act`);
  what begins with an action goes on as what is left of it (`Begins`).

  * `inTime_or_late` — with a bound on its time, a computation comes to its own value if it is over by then,
    and to nothing if it is not;
  * `InTime.run_within` — and whatever it does in time, it does with the bound;
  * `InTime.not_late`, `InTime.unique` — which of the two it is, and the value, is told by what it did;
  * `ends_within` — with a bound on its time it ends.
-/

namespace Switchyard.Prog

variable {σ δ Q A α : Type}

/-- The milliseconds that an action takes. -/
def Action.elapsed : Action σ δ → Nat
  | waited ms => ms
  | _ => 0

/-- The milliseconds that actions take, one after the other. -/
def elapsed (acts : List (Action σ δ)) : Nat := (acts.map Action.elapsed).sum

/-- The entry that an action leaves in the record, if it leaves one. -/
def Action.entries : Action σ δ → List Observation
  | noted o => [o]
  | _ => []

theorem elapsed_cons (act : Action σ δ) (acts : List (Action σ δ)) :
    elapsed (act :: acts) = act.elapsed + elapsed acts := by
  rw [elapsed, List.map_cons, List.sum_cons]
  rfl

/-- The next action of a computation that finds this record, and what is left of the computation
    afterwards; nothing if it is over, or never ends. -/
def act (past : List Observation) : Background α → Option (Action Unit Empty × Background α)
  | done _ | halt => none
  | step u k => some (.changed () (u ()), k ())
  | note o k => some (.noted o, k)
  | lookBack k => some (.lookedBack past, k past)
  | wait ms k => some (.waited ms, k)
  | launch j _ => nomatch j
  | ask q _ => nomatch q

/-- The computation was over with this value before the time was. -/
structure InTime (b : Background α) (ms : Nat) (acts : List (Action Unit Empty)) (a : α) : Prop where
  run : Run b acts (some a)
  time : elapsed acts ≤ ms

/-- The computation was not over when the time was: it had come so far that, whatever it finds from then
    on, it is only over after more time. -/
def Late (b : Background α) (ms : Nat) (acts : List (Action Unit Empty)) : Prop :=
  ∃ before left, acts = before ++ [.waited left] ∧ elapsed before + left = ms ∧ Run b before none ∧
    ∀ later a, Run b (before ++ later) (some a) → ms < elapsed (before ++ later)

/-- The program ends if it is always answered. -/
def Ends : Prog σ δ Q A α → Prop
  | done _ => True
  | halt => False
  | step _ k => ∀ s, Ends (k s)
  | note _ k | launch _ k | wait _ k => Ends k
  | lookBack k => ∀ past, Ends (k past)
  | ask _ k => ∀ a, Ends (k a)

/-- A computation may begin with an action, and what is left then is the other computation: it runs on as
    this, leaves what this leaves, and ends only if this does. -/
structure Begins (b : Background α) (act : Action Unit Empty) (rest : Background α) : Prop where
  run {acts : List (Action Unit Empty)} {r : Option α} : Run rest acts r → Run b (act :: acts) r
  onward {acts : List (Action Unit Empty)} {a : α} :
    Run b (act :: acts) (some a) → Run rest acts (some a)
  leaves {o : Observation} :
    o ∈ act.entries ∨ rest.Leaves (fun e _ => nomatch e) o → b.Leaves (fun e _ => nomatch e) o
  ends : b.Ends → rest.Ends

/-! ## The first action -/

theorem begins_step (u : Unit → Unit) (k : Unit → Background α) (s : Unit) :
    Begins (.step u k) (.changed s (u s)) (k s) where
  run h := .step s h
  onward {acts a} h := by
    generalize hacts : Action.changed s (u s) :: acts = es at h
    cases h with
    | step s' h =>
      obtain ⟨-, rfl⟩ := List.cons.inj hacts
      exact h
  leaves h := .step s (h.resolve_left List.not_mem_nil)
  ends h := h s

theorem begins_note (o : Observation) (k : Background α) : Begins (.note o k) (.noted o) k where
  run h := .note h
  onward {acts a} h := by
    generalize hacts : Action.noted o :: acts = es at h
    cases h with
    | note h =>
      obtain ⟨-, rfl⟩ := List.cons.inj hacts
      exact h
  leaves h := by
    rcases h with h | h
    · obtain rfl := List.mem_singleton.mp h
      exact .here _ _
    · exact .note h
  ends h := h

theorem begins_lookBack (k : List Observation → Background α) (past : List Observation) :
    Begins (.lookBack k) (.lookedBack past) (k past) where
  run h := .lookBack past h
  onward {acts a} h := by
    generalize hacts : Action.lookedBack past :: acts = es at h
    cases h with
    | lookBack past' h =>
      obtain ⟨hact, rfl⟩ := List.cons.inj hacts
      obtain rfl : past = past' := Action.lookedBack.inj hact
      exact h
  leaves h := .lookBack past (h.resolve_left List.not_mem_nil)
  ends h := h past

theorem begins_wait (ms : Nat) (k : Background α) : Begins (.wait ms k) (.waited ms) k where
  run h := .wait h
  onward {acts a} h := by
    generalize hacts : Action.waited ms :: acts = es at h
    cases h with
    | wait h =>
      obtain ⟨-, rfl⟩ := List.cons.inj hacts
      exact h
  leaves h := .wait (h.resolve_left List.not_mem_nil)
  ends h := h

/-- A computation begins with its next action. -/
theorem begins_of_act {past : List Observation} {b rest : Background α} {a : Action Unit Empty}
    (h : b.act past = some (a, rest)) : Begins b a rest := by
  cases b with
  | done x => nomatch h
  | halt => nomatch h
  | step u k =>
    obtain ⟨rfl, rfl⟩ := Prod.mk.inj (Option.some.inj h)
    exact begins_step u k ()
  | note o k =>
    obtain ⟨rfl, rfl⟩ := Prod.mk.inj (Option.some.inj h)
    exact begins_note o k
  | lookBack k =>
    obtain ⟨rfl, rfl⟩ := Prod.mk.inj (Option.some.inj h)
    exact begins_lookBack k past
  | wait ms k =>
    obtain ⟨rfl, rfl⟩ := Prod.mk.inj (Option.some.inj h)
    exact begins_wait ms k
  | launch j k => exact j.elim
  | ask q k => exact q.elim

/-- **A computation does not act forever**, whatever it finds. -/
theorem acc_act (b : Background α) :
    Acc (fun rest b => ∃ past a, act past b = some (a, rest)) b := by
  induction b with
  | done a => exact ⟨_, fun rest ⟨past, a, h⟩ => nomatch h⟩
  | halt => exact ⟨_, fun rest ⟨past, a, h⟩ => nomatch h⟩
  | step u k ih =>
    refine ⟨_, fun rest ⟨past, a, h⟩ => ?_⟩
    obtain ⟨-, rfl⟩ := Prod.mk.inj (Option.some.inj h)
    exact ih ()
  | note o k ih =>
    refine ⟨_, fun rest ⟨past, a, h⟩ => ?_⟩
    obtain ⟨-, rfl⟩ := Prod.mk.inj (Option.some.inj h)
    exact ih
  | lookBack k ih =>
    refine ⟨_, fun rest ⟨past, a, h⟩ => ?_⟩
    obtain ⟨-, rfl⟩ := Prod.mk.inj (Option.some.inj h)
    exact ih past
  | wait ms k ih =>
    refine ⟨_, fun rest ⟨past, a, h⟩ => ?_⟩
    obtain ⟨-, rfl⟩ := Prod.mk.inj (Option.some.inj h)
    exact ih
  | launch j k ih => exact j.elim
  | ask q k ih => exact q.elim

/-- What a computation did tells its value. -/
theorem run_unique {b : Background α} {acts : List (Action Unit Empty)} {a a' : α}
    (h : Run b acts (some a)) (h' : Run b acts (some a')) : a = a' := by
  induction b generalizing acts with
  | done x =>
    cases h with
    | done => exact (Option.some.inj ((runs_done_iff.mp h').2.resolve_left nofun)).symm
  | halt => nomatch h
  | step u k ih =>
    cases h with
    | step s h => exact ih s h ((begins_step u k s).onward h')
  | note o k ih =>
    cases h with
    | note h => exact ih h ((begins_note o k).onward h')
  | lookBack k ih =>
    cases h with
    | lookBack past h => exact ih past h ((begins_lookBack k past).onward h')
  | wait ms k ih =>
    cases h with
    | wait h => exact ih h ((begins_wait ms k).onward h')
  | launch j k ih => exact j.elim
  | ask q k ih => exact q.elim

/-! ## A bound on the time -/

section Bounded

variable {b rest : Background α} {ms : Nat} {act : Action Unit Empty} {acts : List (Action Unit Empty)}

/-- What is in time after an action that leaves enough time is in time with it. -/
theorem InTime.cons (hbegins : Begins b act rest) (hact : act.elapsed ≤ ms) {a : α}
    (h : InTime rest (ms - act.elapsed) acts a) : InTime b ms (act :: acts) a := by
  refine ⟨hbegins.run h.run, ?_⟩
  have htime := h.time
  rw [elapsed_cons]
  omega

/-- What is late after an action that leaves enough time is late with it. -/
theorem Late.cons (hbegins : Begins b act rest) (hact : act.elapsed ≤ ms)
    (h : Late rest (ms - act.elapsed) acts) : Late b ms (act :: acts) := by
  obtain ⟨before, left, rfl, htime, hrun, hlate⟩ := h
  refine ⟨act :: before, left, rfl, ?_, hbegins.run hrun, fun later a hover => ?_⟩
  · rw [elapsed_cons]
    omega
  · have hafter := hlate later a (hbegins.onward hover)
    rw [List.cons_append, elapsed_cons]
    omega

/-- What cannot be over before the time is has to wait for the rest of it. -/
theorem late_of_waiting (h : ∀ later a, Run b later (some a) → ms < elapsed later) :
    Late b ms [.waited ms] :=
  ⟨[], ms, rfl, Nat.zero_add ms, .stop b, h⟩

/-- **Within a bound on its time a computation comes to its value, or it is late.** -/
theorem inTime_or_late {result : Option α} (h : Run (b.within ms) acts (some result)) :
    (∃ a, result = some a ∧ InTime b ms acts a) ∨ (result = none ∧ Late b ms acts) := by
  -- along the computation: an action takes its time off the bound for what comes after it
  have hlift : ∀ {b rest : Background α} {ms : Nat} {act : Action Unit Empty}
      {acts : List (Action Unit Empty)}, Begins b act rest → act.elapsed ≤ ms →
      ((∃ a, result = some a ∧ InTime rest (ms - act.elapsed) acts a) ∨
        (result = none ∧ Late rest (ms - act.elapsed) acts)) →
      (∃ a, result = some a ∧ InTime b ms (act :: acts) a) ∨
        (result = none ∧ Late b ms (act :: acts)) := by
    intro b rest ms act acts hbegins hact h
    rcases h with ⟨a, hresult, hin⟩ | ⟨hresult, hlate⟩
    · exact Or.inl ⟨a, hresult, hin.cons hbegins hact⟩
    · exact Or.inr ⟨hresult, hlate.cons hbegins hact⟩
  -- what waits for the end of the time comes to nothing
  have hwaiting : ∀ {b : Background α} {ms : Nat} {acts : List (Action Unit Empty)},
      (∀ later a, Run b later (some a) → ms < elapsed later) →
      Run (wait ms (done none) : Background (Option α)) acts (some result) →
      result = none ∧ Late b ms acts := by
    intro b ms acts hlate h
    cases h with
    | wait h =>
      obtain ⟨rfl, hnone | hsome⟩ := runs_done_iff.mp h
      · nomatch hnone
      · exact ⟨Option.some.inj hsome, late_of_waiting hlate⟩
  induction b generalizing ms acts with
  | done a =>
    obtain ⟨rfl, hnone | hsome⟩ := runs_done_iff.mp h
    · nomatch hnone
    · exact Or.inl ⟨a, Option.some.inj hsome, .done a, Nat.zero_le ms⟩
  | halt => exact Or.inr (hwaiting (fun later a h => nomatch h) h)
  | step u k ih =>
    cases h with
    | step s h => exact hlift (begins_step u k s) (Nat.zero_le ms) (ih s h)
  | note o k ih =>
    cases h with
    | note h => exact hlift (begins_note o k) (Nat.zero_le ms) (ih h)
  | lookBack k ih =>
    cases h with
    | lookBack past h => exact hlift (begins_lookBack k past) (Nat.zero_le ms) (ih past h)
  | wait d k ih =>
    rw [within] at h
    by_cases hd : d ≤ ms
    · rw [if_pos hd] at h
      cases h with
      | wait h => exact hlift (begins_wait d k) hd (ih h)
    · rw [if_neg hd] at h
      refine Or.inr (hwaiting (fun later a hover => ?_) h)
      cases hover with
      | wait hover =>
        show ms < elapsed (.waited d :: _)
        rw [elapsed_cons]
        show ms < d + _
        omega
  | launch j k ih => exact j.elim
  | ask q k ih => exact q.elim

/-- **A computation that is over in time has its value within the bound**, and has done the same. -/
theorem InTime.run_within {a : α} (h : InTime b ms acts a) : Run (b.within ms) acts (some (some a)) := by
  obtain ⟨hrun, htime⟩ := h
  -- what is left after an action has no more than the rest of the time
  have hrest : ∀ {act : Action Unit Empty} {acts ms}, elapsed (act :: acts) ≤ ms →
      act.elapsed ≤ ms ∧ elapsed acts ≤ ms - act.elapsed := by
    intro act acts ms hle
    rw [elapsed_cons] at hle
    omega
  induction b generalizing ms acts with
  | done x =>
    cases hrun with
    | done => exact .done _
  | halt => nomatch hrun
  | step u k ih =>
    cases hrun with
    | step s hrun => exact .step s (ih s hrun (hrest htime).2)
  | note o k ih =>
    cases hrun with
    | note hrun => exact .note (ih hrun (hrest htime).2)
  | lookBack k ih =>
    cases hrun with
    | lookBack past hrun => exact .lookBack past (ih past hrun (hrest htime).2)
  | wait d k ih =>
    cases hrun with
    | wait hrun =>
      obtain ⟨hd, hleft⟩ := hrest htime
      rw [within, if_pos (show d ≤ ms from hd)]
      exact .wait (ih hrun hleft)
  | launch j k ih => exact j.elim
  | ask q k ih => exact q.elim

/-- A computation that was over in time was not late. -/
theorem InTime.not_late {a : α} (h : InTime b ms acts a) : ¬ Late b ms acts := by
  rintro ⟨before, left, rfl, htime, -, hlate⟩
  have hover := hlate [.waited left] a h.run
  have hin := h.time
  omega

theorem InTime.unique {a a' : α} (h : InTime b ms acts a) (h' : InTime b ms acts a') : a = a' :=
  run_unique h.run h'.run

end Bounded

/-- **With a bound on its time a computation ends.** -/
theorem ends_within (ms : Nat) (b : Background α) : (b.within ms).Ends := by
  induction b generalizing ms with
  | done a => exact trivial
  | halt => exact trivial
  | step u k ih => exact fun s => ih s ms
  | note o k ih => exact ih ms
  | lookBack k ih => exact fun past => ih past ms
  | wait d k ih =>
    rw [within]
    by_cases hd : d ≤ ms
    · rw [if_pos hd]
      exact ih (ms - d)
    · rw [if_neg hd]
      exact trivial
  | launch j k ih => exact j.elim
  | ask q k ih => exact q.elim

end Switchyard.Prog
