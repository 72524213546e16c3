import Switchyard.Filter.Basic
import Switchyard.Dark.Basic

/-!
  Calling a stage, and awaiting what it gives back.

  A stage that is called may do some of its work at once; it gives back a future, and does the rest when
  that is awaited.  A `Handler` or a `Filter` does not tell the two apart: it is what happens if a stage is
  called and its future awaited in one go.  For a path that is all there is to say, as long as its filters
  do the same with the rest of the path.

  1. **Handlers.**  A `Callable` is a handler as it is called.  It may do all of its work then (`eager`),
     or none before its future is awaited (`deferred`); awaited in one go these are the same handler.

  2. **Filters.**  An `Awaiting` filter awaits each future of the rest of the path to its end before it does
     anything else.  Either it has a future of its own, in which it calls the rest of the path and awaits it
     there; or it calls the rest of the path when it is applied itself, and the future that it gives back
     begins with that one, or is that one (`Plan`).

  3. **The bridge.**  `awaited_apply`: an awaiting filter in front of anything that is called, awaited in
     one go, is its program in front of the program of that.

  4. **Dark traffic** is such a filter: `Settings.filter_awaiting`.

  A filter of any kind is a function on what is called.  One that lets go of a future, or does something
  else before it awaits it, is no awaiting filter, and can tell `eager` from `deferred`.
-/

namespace Switchyard

/-! ## Handlers that are called -/

/-- What is left to do once a stage was called. -/
abbrev Future (σ Rep : Type) := Flow σ Empty Empty (Outcome Rep)

/-- A handler as it is called: it may act at once, and gives back a future. -/
abbrev Callable (σ Req Rep : Type) := Req → Flow σ Empty Empty (Future σ Rep)

namespace Callable

variable {σ Req Rep : Type}

/-- Calling it, and awaiting what it gives back. -/
def awaited (h : Callable σ Req Rep) : Handler σ Req Rep := fun req => (h req).bind id

/-- A handler that does all of its work when it is called. -/
def eager (h : Handler σ Req Rep) : Callable σ Req Rep :=
  fun req => (h req).bind fun outcome => .done (.done outcome)

/-- A handler that does nothing before its future is awaited. -/
def deferred (h : Handler σ Req Rep) : Callable σ Req Rep := fun req => .done (h req)

/-- Awaited at once, it is the handler that it was made from. -/
theorem awaited_eager (h : Handler σ Req Rep) : (eager h).awaited = h := by
  funext req
  rw [awaited, eager, Prog.bind_assoc]
  exact Prog.bind_done (h req)

/-- And so is the one that defers its work. -/
theorem awaited_deferred (h : Handler σ Req Rep) : (deferred h).awaited = h := rfl

end Callable

/-! ## Filters that await the rest of the path -/

/-- The future of a filter that awaits each future of the rest of the path before it does anything else. -/
inductive Plan (σ Req Rep : Type) where
  /-- A future of its own, in which the rest of the path is called. -/
  | own (body : Flow σ Req (Outcome Rep) (Outcome Rep))
  /-- The rest of the path is called before the future is given back, and awaited first of all in it. -/
  | callFirst (req : Req) (rest : Outcome Rep → Flow σ Req (Outcome Rep) (Outcome Rep))

/-- A filter as it is applied, if it awaits the rest of the path: it may act, and then has its plan. -/
abbrev Awaiting (σ Req Rep : Type) := Req → Flow σ Empty Empty (Plan σ Req Rep)

namespace Prog

variable {σ δ Q A Q' A' α β : Type}

/-- A program that asks nothing, among those that may. -/
def lift (p : Prog σ δ Empty Empty α) : Prog σ δ Q A α := p.answer Empty.elim

/-- What asks nothing needs no answer. -/
theorem answer_lift (h : Q → Prog σ δ Empty Empty A) (p : Prog σ δ Empty Empty α) :
    (p.lift : Prog σ δ Q A α).answer h = p := by
  induction p with
  | done a => rfl
  | halt => rfl
  | step u k ih => exact congrArg (step u) (funext ih)
  | note o k ih => exact congrArg (note o) ih
  | lookBack k ih => exact congrArg lookBack (funext ih)
  | launch j k ih => exact congrArg (launch j) ih
  | wait ms k ih => exact congrArg (wait ms) ih
  | ask q k ih => exact q.elim

theorem lift_bind (p : Prog σ δ Empty Empty α) (f : α → Prog σ δ Empty Empty β) :
    ((p.bind f).lift : Prog σ δ Q A β) = p.lift.bind fun a => (f a).lift :=
  answer_bind Empty.elim p f

end Prog

namespace Plan

variable {σ Req Rep : Type}

/-- What the filter does from here on, awaited. -/
def body : Plan σ Req Rep → Flow σ Req (Outcome Rep) (Outcome Rep)
  | own body => body
  | callFirst req rest => .ask req rest

/-- What the filter does from here on, with something that is called behind it: the rest of its own call,
    and its future. -/
def future (next : Callable σ Req Rep) : Plan σ Req Rep → Flow σ Empty Empty (Future σ Rep)
  | own body => .done (body.answer next.awaited)
  | callFirst req rest => (next req).bind fun future =>
      .done (future.bind fun outcome => (rest outcome).answer next.awaited)

/-- Awaited in one go, a plan comes to its body. -/
theorem future_bind (next : Callable σ Req Rep) (plan : Plan σ Req Rep) :
    (plan.future next).bind id = plan.body.answer next.awaited := by
  cases plan with
  | own body => rfl
  | callFirst req rest =>
    calc ((callFirst req rest).future next).bind id
        = (next req).bind fun future =>
            (id future).bind fun outcome => (rest outcome).answer next.awaited :=
          Prog.bind_assoc ..
      _ = ((next req).bind id).bind fun outcome => (rest outcome).answer next.awaited :=
          (Prog.bind_assoc ..).symm

end Plan

namespace Awaiting

variable {σ Req Rep : Type}

/-- The filter in front of something that is called. -/
def apply (p : Awaiting σ Req Rep) (next : Callable σ Req Rep) : Callable σ Req Rep :=
  fun req => (p req).bind fun plan => plan.future next

/-- The program of the filter. -/
def filter (p : Awaiting σ Req Rep) : Filter σ Req Rep := fun req => (p req).lift.bind Plan.body

/-- The filter that does nothing before its future is awaited. -/
def deferred (f : Filter σ Req Rep) : Awaiting σ Req Rep := fun req => .done (.own (f req))

/-- The filter that gives back the future of the rest of the path. -/
def pass : Awaiting σ Req Rep := fun req => .done (.callFirst req .done)

/-- **Whoever awaits cannot tell when work is done**: an awaiting filter and what is called behind it,
    awaited in one go, are their programs put together. -/
theorem awaited_apply (p : Awaiting σ Req Rep) (next : Callable σ Req Rep) :
    (p.apply next).awaited = p.filter.wrap next.awaited := by
  funext req
  calc (p.apply next).awaited req
      = (p req).bind fun plan => (plan.future next).bind id := Prog.bind_assoc ..
    _ = (p req).bind fun plan => plan.body.answer next.awaited := by simp only [Plan.future_bind]
    _ = ((p req).lift.answer next.awaited).bind fun plan => plan.body.answer next.awaited := by
        rw [Prog.answer_lift]
    _ = p.filter.wrap next.awaited req := (Prog.answer_bind ..).symm

/-- Its program is the filter that it was made from. -/
theorem filter_deferred (f : Filter σ Req Rep) : (deferred f).filter = f := rfl

end Awaiting

/-! ## Dark traffic as it is applied -/

namespace Dark.Settings

variable {σ Req Rep : Type} (s : Settings σ Req)

/-- The filter once it is known whether a request is sampled. -/
def planFor (copy : Req → Req) (req : Req) (accepted : Bool) : Flow σ Empty Empty (Plan σ Req Rep) := do
  if accepted then
    if s.afterService then
      pure <| .own do
        let outcome ← Prog.call req
        s.issue (copy req)
        pure outcome
    else
      s.issue (copy req)
      Awaiting.pass req
  else Awaiting.pass req

/-- The filter as it is applied.  If the copy is sent once the outcome is there, the rest of the path is
    called in a future of the filter's own; otherwise the future of the rest of the path is given back as it
    is, after a dark call was issued or none. -/
def awaiting (copy : Req → Req) : Awaiting σ Req Rep :=
  fun req => (s.sampler.accepts req).bind (s.planFor copy req)

/-- The decision about a request asks nothing. -/
theorem lift_accepts (req : Req) {Q A : Type} :
    ((s.sampler.accepts req).lift : Flow σ Q A Bool) = s.sampler.accepts req := by
  cases s.sampler <;> rfl

/-- What the filter does when it is applied and awaited is what its program says. -/
theorem filter_awaiting (copy : Req → Req) :
    (s.awaiting copy : Awaiting σ Req Rep).filter = s.filter copy := by
  funext req
  have hplan (accepted : Bool) : ((s.planFor copy req accepted).lift.bind Plan.body :
      Flow σ Req (Outcome Rep) (Outcome Rep)) = (if accepted = true then
        if s.afterService = true then (Prog.call req).bind fun outcome =>
          (s.issue (copy req)).bind fun _ => .done outcome
        else (s.issue (copy req)).bind fun _ => Prog.call req
      else Prog.call req) := by
    cases accepted with
    | false => rfl
    | true => cases h : s.afterService <;> simp only [planFor, h] <;> rfl
  calc ((s.sampler.accepts req).bind (s.planFor copy req)).lift.bind Plan.body
      = (s.sampler.accepts req).lift.bind fun accepted =>
          (s.planFor copy req accepted).lift.bind Plan.body := by
        rw [Prog.lift_bind, Prog.bind_assoc]
    _ = s.filter copy req := by
        rw [lift_accepts]
        exact congrArg (Prog.bind _) (funext hplan)

end Dark.Settings
end Switchyard
