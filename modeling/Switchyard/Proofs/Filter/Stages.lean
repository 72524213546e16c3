import Switchyard.Proofs.Filter.Account

/-!
  The stages that a frozen router puts in front of a callback, and what dispatching through them comes
  to.

  From the outside: a stage that maps failures, the global filters, another stage that maps failures, and
  the callback's own filters (`stages`).  A request that bypasses them goes through none (`stagesFor`), and
  one that there is nothing to dispatch to is refused (`refused`).

  * `kept_or_dropped_by_filter` — only filters drop what a request is entered with;
  * `run_dispatched_iff` — the runs of a dispatched request are the accounts of its stages;
  * `run_stages_iff`     — through all stages they end with a reply, if they end;
  * `run_unhandled_iff`  — a failure that is handed out is that of the handler.
-/

namespace Switchyard

variable {σ Req Rep : Type}

/-- The stages in front of a callback. -/
def stages (resolver : Resolver Rep) (global own : Chain σ Req Rep) : Chain σ Req Rep :=
  Filter.mapFailures resolver :: (global ++ Filter.mapFailures resolver :: own)

/-- The stages that a request goes through: none if it is to bypass them. -/
def stagesFor (bypass : Bool) (resolver : Resolver Rep) (global own : Chain σ Req Rep) :
    Chain σ Req Rep :=
  if bypass then [] else stages resolver global own

/-- What dispatching a request to a handler comes to. -/
def dispatched (h : Handler σ Req Rep) (req : Req) : Flow σ Empty Empty (Except DispatchError Rep) :=
  (h req).bind fun o => .done (o.mapError .unhandled)

/-- What a request comes to that there is nothing to dispatch to: entries in the record, and the
    refusal. -/
def refused (notes : List Observation) (e : DispatchError) :
    Flow σ Empty Empty (Except DispatchError Rep) :=
  (Prog.observeAll notes).bind fun _ => .done (.error e)

namespace Chain

theorem compose_append (c d : Chain σ Req Rep) (h : Handler σ Req Rep) :
    compose (c ++ d) h = c.compose (d.compose h) := List.foldr_append

/-- A callback behind the stages. -/
theorem compose_stages (resolver : Resolver Rep) (global own : Chain σ Req Rep)
    (callback : Handler σ Req Rep) :
    (stages resolver global own).compose callback
      = (Filter.mapFailures resolver).wrap
          (global.compose ((Filter.mapFailures resolver).wrap (own.compose callback))) := by
  show (Filter.mapFailures resolver).wrap
    (Chain.compose (global ++ Filter.mapFailures resolver :: own) callback) = _
  rw [compose_append]
  rfl

/-- The second stage that maps failures stands right behind the global filters. -/
theorem stages_inner (resolver : Resolver Rep) (global own : Chain σ Req Rep) :
    (stages resolver global own)[global.length + 1]? = some (Filter.mapFailures resolver) := by
  rw [stages, List.getElem?_cons_succ]
  exact getElem?_behind global own (Filter.mapFailures resolver)

end Chain

section Runs

variable {acts : List (Prog.Action σ Job)} {res : Option (Except DispatchError Rep)} {req : Req}

/-- The runs of a dispatched request are the accounts of the stages that it goes through. -/
theorem run_dispatched_iff {c : Chain σ Req Rep} {callback : Handler σ Req Rep} :
    Prog.Run (dispatched (c.compose callback) req) acts res ↔
      ∃ es r, c.Account callback 0 req es r ∧ acts = es.filterMap Entry.act? ∧
        res = r.map (·.mapError .unhandled) := by
  refine Iff.trans Prog.runs_map_iff ?_
  constructor
  · rintro ⟨r, hrun, hres⟩
    obtain ⟨es, haccount, hacts⟩ := (Chain.run_compose_iff callback c 0 req acts r).mp hrun
    exact ⟨es, r, haccount, hacts, hres⟩
  · rintro ⟨es, r, haccount, hacts, hres⟩
    exact ⟨r, (Chain.run_compose_iff callback c 0 req acts r).mpr ⟨es, haccount, hacts⟩, hres⟩

/-- An account of all stages that is over is over with a reply. -/
theorem reply_of_account {resolver : Resolver Rep} {global own : Chain σ Req Rep}
    {callback : Handler σ Req Rep} {es : List (Entry σ Req Rep)} {o : Outcome Rep}
    (h : (stages resolver global own).Account callback 0 req es (some o)) : ∃ rep, o = .ok rep := by
  obtain ⟨inner, hinner, -⟩ := h
  exact Filter.reply_of_mapFailures hinner

/-- **Dispatching through all stages ends with a reply, if it ends.** -/
theorem run_stages_iff {resolver : Resolver Rep} {global own : Chain σ Req Rep}
    {callback : Handler σ Req Rep} :
    Prog.Run (dispatched ((stages resolver global own).compose callback) req) acts res ↔
      ∃ es, ∃ rep? : Option Rep,
        (stages resolver global own).Account callback 0 req es (rep?.map .ok) ∧
          acts = es.filterMap Entry.act? ∧ res = rep?.map .ok := by
  rw [run_dispatched_iff]
  constructor
  · rintro ⟨es, o?, haccount, hacts, rfl⟩
    cases o? with
    | none => exact ⟨es, none, haccount, hacts, rfl⟩
    | some o =>
      obtain ⟨rep, rfl⟩ := reply_of_account haccount
      exact ⟨es, some rep, haccount, hacts, rfl⟩
  · rintro ⟨es, rep?, haccount, hacts, rfl⟩
    refine ⟨es, rep?.map .ok, haccount, hacts, ?_⟩
    cases rep? with
    | none => rfl
    | some rep => rfl

theorem reply_of_run_stages {resolver : Resolver Rep} {global own : Chain σ Req Rep}
    {callback : Handler σ Req Rep} {out : Except DispatchError Rep}
    (h : Prog.Run (dispatched ((stages resolver global own).compose callback) req) acts (some out)) :
    ∃ rep, out = .ok rep := by
  obtain ⟨es, rep?, -, -, hout⟩ := run_stages_iff.mp h
  cases rep? with
  | none => nomatch hout
  | some rep => exact ⟨rep, Option.some.inj hout⟩

/-- What a dispatched request comes to is what the handler comes to. -/
theorem run_dispatched_some_iff {h : Handler σ Req Rep} {out : Except DispatchError Rep} :
    Prog.Run (dispatched h req) acts (some out) ↔
      ∃ o, Prog.Run (h req) acts (some o) ∧ out = o.mapError .unhandled :=
  Prog.runs_map_some_iff

/-- A failure that is handed out is the failure of the handler. -/
theorem run_unhandled_iff {h : Handler σ Req Rep} {f : Failure} :
    Prog.Run (dispatched h req) acts (some (.error (.unhandled f))) ↔
      Prog.Run (h req) acts (some (.error f)) := by
  rw [run_dispatched_some_iff]
  constructor
  · rintro ⟨o, hrun, hout⟩
    cases o with
    | ok rep => nomatch hout
    | error f' =>
      obtain rfl : f = f' := DispatchError.unhandled.inj (Except.error.inj hout)
      exact hrun
  · intro hrun
    exact ⟨.error f, hrun, rfl⟩

theorem out_of_run_refused {notes : List Observation} {e : DispatchError} {out : Except DispatchError Rep}
    (h : Prog.Run (refused notes e : Flow σ Empty Empty (Except DispatchError Rep)) acts (some out)) :
    out = .error e := by
  obtain ⟨u?, -, hout⟩ := Prog.runs_map_iff.mp h
  cases u? with
  | none => nomatch hout
  | some u => exact Option.some.inj hout

/-- A request that bypasses the stages comes to a failure exactly if its callback does; a request that
    goes through them never does. -/
theorem run_stagesFor_unhandled_iff {bypass : Bool} {resolver : Resolver Rep}
    {global own : Chain σ Req Rep} {callback : Handler σ Req Rep} {f : Failure} :
    Prog.Run (dispatched ((stagesFor bypass resolver global own).compose callback) req) acts
        (some (.error (.unhandled f))) ↔
      bypass = true ∧ Prog.Run (callback req) acts (some (.error f)) := by
  cases bypass with
  | true =>
    refine Iff.trans run_unhandled_iff ?_
    exact ⟨fun h => ⟨rfl, h⟩, fun h => h.2⟩
  | false =>
    constructor
    · intro h
      obtain ⟨rep, hrep⟩ := reply_of_run_stages h
      nomatch hrep
    · rintro ⟨hbypass, -⟩
      nomatch hbypass

end Runs
end Switchyard
