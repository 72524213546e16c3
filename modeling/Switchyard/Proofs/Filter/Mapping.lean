import Switchyard.Filter.Basic
import Switchyard.Proofs.Program.Runs

/-!
  Mapping failures, as equations between programs.

  A filter that maps failures runs the rest of the path once, with the request as it is, and then
  settles the outcome (`mapFailures_eq`, `wrap_mapFailures`): a reply stays as it is, and a failure is
  noted and answered by the resolver.  An outcome that is settled is a reply (`reply_of_settle`), so
  settling it again does nothing, and mapping twice in a row is mapping once (`mapped_once`).
-/

namespace Switchyard

namespace Prog

variable {σ δ Q A Q' A' : Type}

/-- Entries are left in the record without asking anything. -/
theorem observeAll_answer (h : Q → Prog σ δ Q' A' A) (os : List Observation) :
    (observeAll os : Prog σ δ Q A Unit).answer h = observeAll os := by
  induction os with
  | nil => rfl
  | cons o os ih =>
    show note o ((observeAll os).answer h) = note o (observeAll os)
    rw [ih]

theorem not_asks_observeAll {α : Type} (os : List Observation) (a : α) {q : Q} :
    ¬ Asks ((observeAll os : Prog σ δ Q A Unit).bind fun _ => done a) q := by
  intro h
  induction os with
  | nil => nomatch h
  | cons o os ih =>
    cases h with
    | note h => exact ih h

end Prog

namespace Filter

variable {σ Req Rep Q A Q' A' : Type}

/-- What is noted when a failure is mapped. -/
def mappingNotes (r : Resolver Rep) (f : Failure) : List Observation :=
  .event ⟨.debug, "Mapping failure to response",
    [("error", .text f.text), ("exception", .text (Text.optionText (f.kind?.map Kind.name)))]⟩
    :: (r.events f).map .event

/-- Settle an outcome: a reply stays, a failure is noted and answered. -/
def settle (r : Resolver Rep) : Outcome Rep → Flow σ Q A (Outcome Rep)
  | .ok rep => .done (.ok rep)
  | .error f => (Prog.observeAll (mappingNotes r f)).bind fun _ => .done (.ok (r.reply f))

theorem settle_answer (r : Resolver Rep) (h : Q → Flow σ Q' A' A) (o : Outcome Rep) :
    (settle r o : Flow σ Q A (Outcome Rep)).answer h = settle r o := by
  cases o with
  | ok rep => rfl
  | error f =>
    rw [settle, Prog.answer_bind, Prog.observeAll_answer]
    rfl

/-- Settling an outcome twice is settling it once. -/
theorem settle_settle (r : Resolver Rep) (o : Outcome Rep) :
    (settle r o : Flow σ Q A (Outcome Rep)).bind (settle r) = settle r o := by
  cases o with
  | ok rep => rfl
  | error f =>
    rw [settle, Prog.bind_assoc]
    rfl

/-- An outcome that was settled is a reply. -/
theorem reply_of_settle {E : Type} {next : Q → List E → Option A → Prop}
    {entry : Prog.Action σ Job → E} {r : Resolver Rep} {o o' : Outcome Rep} {es : List E}
    (h : Prog.Runs next entry (settle r o) es (some o')) : ∃ rep, o' = .ok rep := by
  cases o with
  | ok rep =>
    obtain ⟨-, hnone | hsome⟩ := Prog.runs_done_iff.mp h
    · nomatch hnone
    · exact ⟨rep, Option.some.inj hsome⟩
  | error f =>
    obtain ⟨u?, -, hr⟩ := Prog.runs_map_iff.mp h
    cases u? with
    | none => nomatch hr
    | some u => exact ⟨r.reply f, Option.some.inj hr⟩

theorem not_asks_settle (r : Resolver Rep) (o : Outcome Rep) {q : Q} :
    ¬ Prog.Asks (settle r o : Flow σ Q A (Outcome Rep)) q := by
  intro h
  cases o with
  | ok rep => nomatch h
  | error f => exact Prog.not_asks_observeAll _ _ h

/-! ## The filter that maps failures -/

theorem mapFailures_eq (r : Resolver Rep) (req : Req) :
    (mapFailures r req : Flow σ Req (Outcome Rep) (Outcome Rep)) = (Prog.call req).bind (settle r) := by
  refine congrArg (Prog.ask req) (funext fun o => ?_)
  cases o with
  | ok rep => rfl
  | error f => rfl

/-- Mapping failures in front of a handler is settling what the handler comes to. -/
theorem wrap_mapFailures (r : Resolver Rep) (next : Handler σ Req Rep) (req : Req) :
    (mapFailures r).wrap next req = (next req).bind (settle r) := by
  show (mapFailures r req).answer next = _
  rw [mapFailures_eq, Prog.answer_bind]
  have hsettle : (fun o => (settle r o : Flow σ Req (Outcome Rep) (Outcome Rep)).answer next)
      = settle r := funext (settle_answer r next)
  rw [hsettle]
  show ((next req).bind Prog.done).bind (settle r) = _
  rw [Prog.bind_done]

/-- **Mapping twice in a row is mapping once.** -/
theorem mapped_once (r : Resolver Rep) (next : Handler σ Req Rep) :
    (mapFailures r).wrap ((mapFailures r).wrap next) = (mapFailures r).wrap next := by
  funext req
  rw [wrap_mapFailures, wrap_mapFailures, Prog.bind_assoc]
  congr 1
  funext o
  exact settle_settle r o

/-- A filter that maps failures ends with a reply. -/
theorem reply_of_mapFailures {E : Type} {next : Req → List E → Option (Outcome Rep) → Prop}
    {entry : Prog.Action σ Job → E} {r : Resolver Rep} {req : Req} {o : Outcome Rep} {es : List E}
    (h : Prog.Runs next entry (mapFailures r req) es (some o)) : ∃ rep, o = .ok rep := by
  rw [mapFailures_eq] at h
  rcases Prog.runs_bind_iff.mp h with ⟨hnone, -⟩ | ⟨o', es₁, es₂, -, hsettle, -⟩
  · nomatch hnone
  · exact reply_of_settle hsettle

end Filter
end Switchyard
