import Switchyard.Proofs.Filter.Stages
import Switchyard.Proofs.Program.Sessions

/-!
  Paths that come to an end.

  A stage may wait, may run what is behind it any number of times, and may never end at all.  What is said of
  the outcome of a request is empty for a path that does not come to one; so beside it is said here when a path
  does.  It is enough that each stage ends whatever it is answered (`Chain.Ends`) and that the handler behind
  the last of them ends for any request: no stage can make another one go on for ever, since a stage asks only
  finitely often before it ends.

  * `Chain.ends_compose`   — a handler behind stages that end, ends if it does without them;
  * `ends_stagesFor`       — mapping failures adds nothing that could go on, so a request ends on its path if
    the filters and the callback do, and only the callback has to if the filters are bypassed;
  * `ends_dispatched`, `ends_refused` — and then dispatching it ends.

  What ends comes to something on any machine (`Machine.exists_run_of_ends`).
-/

namespace Switchyard

variable {σ Req Rep Q A : Type}

namespace Filter

/-- Settling an outcome leaves some entries, and is over. -/
theorem ends_settle (r : Resolver Rep) (o : Outcome Rep) :
    (settle r o : Flow σ Q A (Outcome Rep)).Ends := by
  cases o with
  | ok rep => exact trivial
  | error f => exact Prog.ends_bind (Prog.ends_observeAll _) fun _ => trivial

/-- A filter that maps failures ends when it is answered. -/
theorem ends_mapFailures (r : Resolver Rep) (req : Req) :
    (mapFailures r req : Flow σ Req (Outcome Rep) (Outcome Rep)).Ends := by
  rw [mapFailures_eq]
  exact fun o => ends_settle r o

end Filter

namespace Chain

/-- Each filter ends, whatever the request is and whatever it is answered. -/
def Ends (c : Chain σ Req Rep) : Prop := ∀ f ∈ c, ∀ req, (f req).Ends

theorem Ends.append {c d : Chain σ Req Rep} (hc : c.Ends) (hd : Ends d) : Ends (c ++ d) :=
  List.forall_mem_append.mpr ⟨hc, hd⟩

/-- **A handler behind filters that end ends, if it does without them.** -/
theorem ends_compose {c : Chain σ Req Rep} (hc : c.Ends) {terminal : Handler σ Req Rep}
    (hterminal : ∀ req, (terminal req).Ends) (req : Req) : (c.compose terminal req).Ends := by
  induction c generalizing req with
  | nil => exact hterminal req
  | cons f c ih =>
    obtain ⟨hf, hrest⟩ := List.forall_mem_cons.mp hc
    exact Prog.ends_answer (hf req) (ih hrest)

end Chain

/-- The stages of a path end if the filters that are not bypassed do. -/
theorem ends_stagesFor {bypass : Bool} {global own : Chain σ Req Rep}
    (h : bypass = false → global.Ends ∧ own.Ends) (resolver : Resolver Rep) :
    (stagesFor bypass resolver global own).Ends := by
  cases bypass with
  | true => exact fun f hf => nomatch hf
  | false =>
    obtain ⟨hglobal, hown⟩ := h rfl
    have hmapping : ∀ req, (Filter.mapFailures resolver req : Flow σ Req (Outcome Rep) _).Ends :=
      Filter.ends_mapFailures resolver
    exact List.forall_mem_cons.mpr ⟨hmapping, hglobal.append (List.forall_mem_cons.mpr ⟨hmapping, hown⟩)⟩

theorem ends_dispatched {h : Handler σ Req Rep} {req : Req} (hends : (h req).Ends) :
    (dispatched h req).Ends := Prog.ends_bind hends fun _ => trivial

theorem ends_refused (notes : List Observation) (e : DispatchError) :
    (refused notes e : Flow σ Empty Empty (Except DispatchError Rep)).Ends :=
  Prog.ends_bind (Prog.ends_observeAll notes) fun _ => trivial

end Switchyard
