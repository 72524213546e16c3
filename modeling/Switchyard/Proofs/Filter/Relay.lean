import Switchyard.Proofs.Filter.Stages
import Switchyard.Route.Filters

/-!
  Filters that pass requests and outcomes through.

  A filter passes through if it asks once, with the request that it got, and ends with the answer
  (`Filter.PassesThrough`); what else it does, before and after, is left open.  A handler surrounds another if
  what it does is what the other does, with more around it, and it comes to the same reply (`Surrounds`).

  * `surrounds_wrap`, `surrounds_mapFailures` — a filter that passes through surrounds what is behind it, and
    so does mapping failures;
  * `surrounds_stages` — and so do all stages of a path whose filters pass through.
-/

namespace Switchyard

namespace Prog

variable {σ δ Q A E α : Type}

/-- The program asks nothing, and ends with this value, whatever it does before. -/
def Gives (a : α) : Prog σ δ Q A α → Prop
  | done b => b = a
  | step _ k => ∀ s, Gives a (k s)
  | note _ k => Gives a k
  | lookBack k => ∀ past, Gives a (k past)
  | launch _ k => Gives a k
  | wait _ k => Gives a k
  | halt | ask .. => False

/-- The program asks once, and this question, and ends with the answer, whatever it does before and after. -/
def Relays (q : Q) : Prog σ δ Q A A → Prop
  | ask q' k => q' = q ∧ ∀ a, (k a).Gives a
  | step _ k => ∀ s, Relays q (k s)
  | note _ k => Relays q k
  | lookBack k => ∀ past, Relays q (k past)
  | launch _ k => Relays q k
  | wait _ k => Relays q k
  | done _ | halt => False

variable {next : Q → List E → Option A → Prop} {entry : Action σ δ → E}

theorem Gives.of_runs {p : Prog σ δ Q A α} {a b : α} (h : p.Gives a) {es : List E}
    (hrun : Runs next entry p es (some b)) : b = a := by
  generalize hr : some b = r at hrun
  induction hrun with
  | stop p => nomatch hr
  | done c =>
    obtain rfl := Option.some.inj hr
    exact h
  | step s _ ih => exact ih (h s) hr
  | note _ ih => exact ih h hr
  | lookBack past _ ih => exact ih (h past) hr
  | launch _ ih => exact ih h hr
  | wait _ ih => exact ih h hr
  | asked => exact h.elim
  | answered => exact h.elim

/-- A program that gives a value can be run to its end, if there is a state at all. -/
theorem Gives.exists_runs [hσ : Nonempty σ] {p : Prog σ δ Q A α} {a : α} (h : p.Gives a) :
    ∃ es, Runs next entry p es (some a) := by
  induction p with
  | done b =>
    obtain rfl : b = a := h
    exact ⟨[], .done b⟩
  | step u k ih =>
    obtain ⟨s⟩ := hσ
    obtain ⟨es, hrun⟩ := ih s (h s)
    exact ⟨_, .step s hrun⟩
  | note o k ih =>
    obtain ⟨es, hrun⟩ := ih h
    exact ⟨_, .note hrun⟩
  | lookBack k ih =>
    obtain ⟨es, hrun⟩ := ih [] (h [])
    exact ⟨_, .lookBack [] hrun⟩
  | launch job k ih =>
    obtain ⟨es, hrun⟩ := ih h
    exact ⟨_, .launch hrun⟩
  | wait ms k ih =>
    obtain ⟨es, hrun⟩ := ih h
    exact ⟨_, .wait hrun⟩
  | halt => exact h.elim
  | ask q k => exact h.elim

/-- In a run of a program that relays a question, one part answers it, and the run ends with the answer. -/
theorem Relays.of_runs {p : Prog σ δ Q A A} {q : Q} (h : p.Relays q) {es : List E} {a : A}
    (hrun : Runs next entry p es (some a)) :
    ∃ before during after, es = before ++ during ++ after ∧ next q during (some a) := by
  generalize hr : some a = r at hrun
  -- an action in front of the question comes before the part that answers it
  have hcons : ∀ {r : Option A} {e : E} {es : List E},
      (∃ before during after, es = before ++ during ++ after ∧ next q during r) →
      ∃ before during after, e :: es = before ++ during ++ after ∧ next q during r := by
    rintro r e es ⟨before, during, after, rfl, hq⟩
    exact ⟨e :: before, during, after, rfl, hq⟩
  induction hrun with
  | stop p => nomatch hr
  | done c => exact h.elim
  | step s _ ih => exact hcons (ih (h s) hr)
  | note _ ih => exact hcons (ih h hr)
  | lookBack past _ ih => exact hcons (ih (h past) hr)
  | launch _ ih => exact hcons (ih h hr)
  | wait _ ih => exact hcons (ih h hr)
  | asked => nomatch hr
  | answered b hq hk _ =>
    obtain ⟨rfl, hgives⟩ := h
    subst hr
    obtain rfl : a = b := (hgives b).of_runs hk
    exact ⟨[], _, _, rfl, hq⟩

/-- Any answer to the question is part of a run that ends with it. -/
theorem Relays.exists_runs [hσ : Nonempty σ] {p : Prog σ δ Q A A} {q : Q} (h : p.Relays q) {during : List E}
    {a : A} (hq : next q during (some a)) :
    ∃ before after, Runs next entry p (before ++ during ++ after) (some a) := by
  induction p with
  | done b => exact h.elim
  | step u k ih =>
    obtain ⟨s⟩ := hσ
    obtain ⟨before, after, hrun⟩ := ih s (h s)
    exact ⟨_ :: before, after, .step s hrun⟩
  | note o k ih =>
    obtain ⟨before, after, hrun⟩ := ih h
    exact ⟨_ :: before, after, .note hrun⟩
  | lookBack k ih =>
    obtain ⟨before, after, hrun⟩ := ih [] (h [])
    exact ⟨_ :: before, after, .lookBack [] hrun⟩
  | launch job k ih =>
    obtain ⟨before, after, hrun⟩ := ih h
    exact ⟨_ :: before, after, .launch hrun⟩
  | wait ms k ih =>
    obtain ⟨before, after, hrun⟩ := ih h
    exact ⟨_ :: before, after, .wait hrun⟩
  | halt => exact h.elim
  | ask q' k ih =>
    obtain ⟨rfl, hgives⟩ := h
    have hafter : ∃ after, Runs next entry (k a) after (some a) := (hgives a).exists_runs
    obtain ⟨after, hk⟩ := hafter
    exact ⟨[], after, .answered a hq hk⟩

end Prog

variable {σ Req Rep : Type}

/-- The filter runs the rest of the path once, with the request that it got, and ends with the outcome of
    that. -/
def Filter.PassesThrough (f : Filter σ Req Rep) : Prop := ∀ req, (f req).Relays req

/-- The outer handler does what the inner one does, once and with the same request, and more around it; if the
    inner one comes to a reply, so does the outer one. -/
structure Surrounds (outer inner : Handler σ Req Rep) : Prop where
  /-- Every run of the outer handler is a run of the inner one with more around it. -/
  inward : ∀ {req acts o}, Prog.Run (outer req) acts (some o) →
    ∃ before during after o', acts = before ++ during ++ after ∧ Prog.Run (inner req) during (some o') ∧
      ∀ rep, o' = .ok rep → o = .ok rep
  /-- Every run of the inner handler to a reply is found in such a run. -/
  outward : Nonempty σ → ∀ {req during rep}, Prog.Run (inner req) during (some (.ok rep)) →
    ∃ before after, Prog.Run (outer req) (before ++ during ++ after) (some (.ok rep))

namespace Surrounds

variable {outer middle inner next : Handler σ Req Rep}

theorem refl (h : Handler σ Req Rep) : Surrounds h h where
  inward {req acts o} hrun := ⟨[], acts, [], o, by rw [List.append_nil, List.nil_append], hrun, fun _ ho => ho⟩
  outward _ {req during rep} hrun := ⟨[], [], by rwa [List.append_nil, List.nil_append]⟩

theorem trans (h : Surrounds outer middle) (h' : Surrounds middle inner) : Surrounds outer inner where
  inward hrun := by
    obtain ⟨before, during, after, o, rfl, hmiddle, hout⟩ := h.inward hrun
    obtain ⟨before', during', after', o', rfl, hinner, ho⟩ := h'.inward hmiddle
    exact ⟨before ++ before', during', after' ++ after, o', by simp only [List.append_assoc], hinner,
      fun rep hrep => hout rep (ho rep hrep)⟩
  outward hσ {req during rep} hrun := by
    obtain ⟨before', after', hmiddle⟩ := h'.outward hσ hrun
    obtain ⟨before, after, houter⟩ := h.outward hσ hmiddle
    refine ⟨before ++ before', after' ++ after, ?_⟩
    simpa only [List.append_assoc] using houter

/-- **A filter that passes through surrounds what is behind it.** -/
theorem wrap {f : Filter σ Req Rep} (hf : f.PassesThrough) (next : Handler σ Req Rep) :
    Surrounds (f.wrap next) next where
  inward {req acts o} hrun := by
    obtain ⟨before, during, after, hacts, hnext⟩ := (hf req).of_runs (Prog.run_answer_iff.mp hrun)
    exact ⟨before, during, after, o, hacts, hnext, fun _ ho => ho⟩
  outward hσ {req during rep} hrun := by
    have hruns : ∃ before after, Prog.Runs (fun q es a? => Prog.Run (next q) es a?) id (f req)
        (before ++ during ++ after) (some (.ok rep)) := (hf req).exists_runs hrun
    obtain ⟨before, after, hruns⟩ := hruns
    exact ⟨before, after, Prog.run_answer_iff.mpr hruns⟩

/-- Mapping failures surrounds what is behind it: only failures are changed. -/
theorem mapFailures (r : Resolver Rep) (next : Handler σ Req Rep) :
    Surrounds ((Filter.mapFailures r).wrap next) next where
  inward {req acts o} hrun := by
    rw [Filter.wrap_mapFailures] at hrun
    rcases Prog.runs_bind_iff.mp hrun with ⟨hnone, -⟩ | ⟨o', during, after, hnext, hsettle, rfl⟩
    · nomatch hnone
    · refine ⟨[], during, after, o', rfl, hnext, ?_⟩
      rintro rep rfl
      obtain ⟨-, hnone | ho⟩ := Prog.runs_done_iff.mp hsettle
      · nomatch hnone
      · exact Option.some.inj ho
  outward _ {req during rep} hrun := by
    refine ⟨[], [], ?_⟩
    rw [Filter.wrap_mapFailures, List.nil_append]
    exact Prog.Runs.bind hrun (.done _)

/-- So does a chain of filters that pass through. -/
theorem compose {c : Chain σ Req Rep} (hc : ∀ f ∈ c, f.PassesThrough) (terminal : Handler σ Req Rep) :
    Surrounds (c.compose terminal) terminal := by
  induction c with
  | nil => exact .refl terminal
  | cons f c ih =>
    obtain ⟨hf, hrest⟩ := List.forall_mem_cons.mp hc
    exact (Surrounds.wrap hf (Chain.compose c terminal)).trans (ih hrest)

/-- **All stages of a path surround the callback**, if the filters among them pass through. -/
theorem stages (resolver : Resolver Rep) {global own : Chain σ Req Rep}
    (hfilters : ∀ f ∈ global ++ own, f.PassesThrough) (callback : Handler σ Req Rep) :
    Surrounds ((Switchyard.stages resolver global own).compose callback) callback := by
  obtain ⟨hglobal, hown⟩ := List.forall_mem_append.mp hfilters
  rw [Chain.compose_stages]
  refine (Surrounds.mapFailures resolver _).trans ?_
  refine (Surrounds.compose hglobal _).trans ?_
  exact (Surrounds.mapFailures resolver _).trans (.compose hown callback)

end Surrounds

/-! ## Logging -/

namespace Route

/-- Access logging passes through: it only adds an event to the outcome. -/
theorem passesThrough_logging : (logging : Http.Filter σ).PassesThrough := by
  intro req
  refine ⟨rfl, fun outcome => ?_⟩
  cases outcome with
  | ok rep => rfl
  | error f => rfl

end Route
end Switchyard
