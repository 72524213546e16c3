import Switchyard.Observe.Observation

/-!
  Programs as values.

  A stage of a request's path may read and change state, leave observations, start work in the
  background, wait, and run what comes after it any number of times.  `Prog` is the type of such
  programs: a tree whose nodes are the single actions.  Two programs that are equal as trees act
  alike in every surrounding, whatever else runs between their actions, so laws about stages are
  equations between trees.

  What comes after a stage is not a function that the stage could look into: it is reached by
  asking a question, and all that comes back is an answer.  `Prog.answer` puts the rest of the path
  in place of the questions.
-/

namespace Switchyard

/-- A program over a state `σ` that may start background jobs of type `δ`, may ask questions of
    type `Q` that are answered by an `A`, and ends with a value of type `α`. -/
inductive Prog (σ δ Q A α : Type) : Type where
  /-- The program is over. -/
  | done (value : α)
  /-- One change of the state; the program goes on with the state as it was before. -/
  | step (update : σ → σ) (next : σ → Prog σ δ Q A α)
  /-- One entry for the record. -/
  | note (o : Observation) (next : Prog σ δ Q A α)
  /-- Read the record, newest entry first. -/
  | lookBack (next : List Observation → Prog σ δ Q A α)
  /-- Start a job in the background. -/
  | launch (job : δ) (next : Prog σ δ Q A α)
  /-- Let some milliseconds pass. -/
  | wait (ms : Nat) (next : Prog σ δ Q A α)
  /-- Never end. -/
  | halt
  /-- Ask, and go on with the answer. -/
  | ask (question : Q) (next : A → Prog σ δ Q A α)

namespace Prog

variable {σ δ Q A Q' A' α β γ : Type}

/-- Run one program, then the next with its value. -/
def bind : Prog σ δ Q A α → (α → Prog σ δ Q A β) → Prog σ δ Q A β
  | done a, f => f a
  | step u k, f => step u fun s => bind (k s) f
  | note o k, f => note o (bind k f)
  | lookBack k, f => lookBack fun r => bind (k r) f
  | launch j k, f => launch j (bind k f)
  | wait ms k, f => wait ms (bind k f)
  | halt, _ => halt
  | ask q k, f => ask q fun a => bind (k a) f

instance : Monad (Prog σ δ Q A) where
  pure := done
  bind := bind

@[simp] theorem pure_eq (a : α) : (pure a : Prog σ δ Q A α) = done a := rfl

@[simp] theorem bind_eq (p : Prog σ δ Q A α) (f : α → Prog σ δ Q A β) : p >>= f = p.bind f := rfl

@[simp] theorem done_bind (a : α) (f : α → Prog σ δ Q A β) : (done a).bind f = f a := rfl

/-- Ending with the value that there is changes nothing. -/
@[simp] theorem bind_done (p : Prog σ δ Q A α) : p.bind done = p := by
  induction p with
  | done | halt => rfl
  | note _ _ ih | launch _ _ ih | wait _ _ ih => simp [bind, ih]
  | step _ _ ih | lookBack _ ih | ask _ _ ih => simp [bind, ih]

/-- In a row of programs it does not matter which are put together first. -/
theorem bind_assoc (p : Prog σ δ Q A α) (f : α → Prog σ δ Q A β) (g : β → Prog σ δ Q A γ) :
    (p.bind f).bind g = p.bind fun a => (f a).bind g := by
  induction p with
  | done | halt => rfl
  | note _ _ ih | launch _ _ ih | wait _ _ ih => simp [bind, ih]
  | step _ _ ih | lookBack _ ih | ask _ _ ih => simp [bind, ih]

/-- Put a program in place of every question. -/
def answer (h : Q → Prog σ δ Q' A' A) : Prog σ δ Q A α → Prog σ δ Q' A' α
  | done a => done a
  | step u k => step u fun s => answer h (k s)
  | note o k => note o (answer h k)
  | lookBack k => lookBack fun r => answer h (k r)
  | launch j k => launch j (answer h k)
  | wait ms k => wait ms (answer h k)
  | halt => halt
  | ask q k => (h q).bind fun a => answer h (k a)

/-- Programs may be answered one after the other. -/
theorem answer_bind (h : Q → Prog σ δ Q' A' A) (p : Prog σ δ Q A α) (f : α → Prog σ δ Q A β) :
    (p.bind f).answer h = (p.answer h).bind fun a => (f a).answer h := by
  induction p with
  | done | halt => rfl
  | note _ _ ih | launch _ _ ih | wait _ _ ih => simp [bind, answer, ih]
  | step _ _ ih | lookBack _ ih => simp [bind, answer, ih]
  | ask _ _ ih => simp [bind, answer, bind_assoc, ih]

/-! ## Single actions -/

/-- Leave an entry in the record. -/
def observe (o : Observation) : Prog σ δ Q A Unit := note o (done ())

/-- Emit an event. -/
def emit (e : Event) : Prog σ δ Q A Unit := observe (.event e)

/-- Leave a mark. -/
def mark (s : String) : Prog σ δ Q A Unit := observe (.mark s)

/-- Leave several entries in order. -/
def observeAll : List Observation → Prog σ δ Q A Unit
  | [] => done ()
  | o :: os => note o (observeAll os)

/-- Change the state by a function that also gives a value. -/
def update (f : σ → α × σ) : Prog σ δ Q A α := step (fun s => (f s).2) fun s => done (f s).1

/-- Ask the rest of the path. -/
def call (q : Q) : Prog σ δ Q A A := ask q done

/-- Let some milliseconds pass; none is no pause at all. -/
def pause (ms : Nat) : Prog σ δ Q A Unit := if ms = 0 then done () else wait ms (done ())

end Prog

/-- A background computation: it has no state, starts no jobs and asks nothing.  It may leave entries
    in the record, read the record, and take its time. -/
abbrev Background (α : Type) := Prog Unit Empty Empty Empty α

/-- A background computation with the filter that issued it. -/
structure Job where
  filter : DarkId
  body : Background Unit

/-- A program on the path of a request: it may start jobs. -/
abbrev Flow (σ Q A α : Type) := Prog σ Job Q A α

namespace Prog

/-- The value of a computation that takes no time and reads no record. -/
def value? {α : Type} : Background α → Option α
  | done a => some a
  | step _ k => value? (k ())
  | note _ k => value? k
  | lookBack _ | wait _ _ | halt => none
  | launch j _ => nomatch j
  | ask q _ => nomatch q

/-- Bound the time of a computation: its value if it ends within the given milliseconds, otherwise
    nothing once they are over.  A value that is there at the last moment still counts. -/
def within {α : Type} (ms : Nat) : Background α → Background (Option α)
  | done a => done (some a)
  | step u k => step u fun s => within ms (k s)
  | note o k => note o (within ms k)
  | lookBack k => lookBack fun r => within ms (k r)
  | launch j _ => nomatch j
  | wait d k => if d ≤ ms then wait d (within (ms - d) k) else wait ms (done none)
  | halt => wait ms (done none)
  | ask q _ => nomatch q

end Prog
end Switchyard
