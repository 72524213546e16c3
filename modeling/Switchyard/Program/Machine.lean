import Switchyard.Program.Basic

/-!
  Running programs in virtual time.

  There is one main program and any number of background jobs.  Time passes only while all of them
  wait.  A job that was started begins when the main program next waits, or when it is settled; jobs
  that are due run in the order in which they were started.
-/

namespace Switchyard

/-- A background job with the milliseconds until it is due. -/
structure Pending where
  due : Nat
  job : Job

/-- The state of a run between two actions of the main program. -/
structure Machine (σ : Type) where
  state : σ
  /-- The record, newest entry first. -/
  past : List Observation := []
  jobs : List Pending := []

/-- What a background computation has become when it can do no more for now. -/
inductive Rest where
  /-- It is over, or will never end. -/
  | over
  /-- It waits. -/
  | asleep (ms : Nat) (body : Background Unit)

/-- Run a background computation until it waits for time to pass or is over. -/
def Prog.advance : Background Unit → List Observation → Rest × List Observation
  | .done _, past => (.over, past)
  | .step _ k, past => advance (k ()) past
  | .note o k, past => advance k (o :: past)
  | .lookBack k, past => advance (k past) past
  | .launch j _, _ => nomatch j
  | .wait ms k, past => if ms = 0 then advance k past else (.asleep ms k, past)
  | .halt, past => (.over, past)
  | .ask q _, _ => nomatch q

namespace Machine

variable {σ α : Type}

/-- Run the jobs that are due, in order. -/
def settleFrom (m : Machine σ) : List Pending → Machine σ
  | [] => m
  | p :: rest =>
    if p.due = 0 then
      match p.job.body.advance m.past with
      | (.over, past) => settleFrom { m with past := past } rest
      | (.asleep ms body, past) =>
        settleFrom { m with past := past, jobs := m.jobs ++ [⟨ms, { p.job with body := body }⟩] } rest
    else settleFrom { m with jobs := m.jobs ++ [p] } rest

/-- Let every job go as far as it can without time passing. -/
def settle (m : Machine σ) : Machine σ := settleFrom { m with jobs := [] } m.jobs

/-- One millisecond passes. -/
def tick (m : Machine σ) : Machine σ :=
  { m with jobs := m.jobs.map fun p => { p with due := p.due - 1 } }

/-- Let some milliseconds pass; the jobs that become due on the way run when they do. -/
def pass : Nat → Machine σ → Machine σ
  | 0, m => m.settle
  | ms + 1, m => pass ms m.settle.tick

/-- Run the main program to its end; nothing if it never ends. -/
def run : Flow σ Empty Empty α → Machine σ → Option α × Machine σ
  | .done a, m => (some a, m)
  | .step u k, m => run (k m.state) { m with state := u m.state }
  | .note o k, m => run k { m with past := o :: m.past }
  | .lookBack k, m => run (k m.past) m
  | .launch j k, m => run k { m with jobs := m.jobs ++ [⟨0, j⟩] }
  | .wait ms k, m => run k (m.pass ms)
  | .halt, m => (none, m)
  | .ask q _, _ => nomatch q

/-- The record in the order in which it was made. -/
def record (m : Machine σ) : List Observation := m.past.reverse

end Machine
end Switchyard
