import Switchyard.Program.Machine
import Switchyard.Proofs.Filter.Stages

/-!
  The algebra of chains.

  A chain is built by adding filters and by putting chains behind one another, in any nesting.  Two readings of
  such an expression say what it stands for: the filters as they are written, from left to right
  (`ChainExpr.written`), and what the expression does to a handler, part by part (`ChainExpr.around`).

  * `filters_eq_written` — the chain that is built holds the filters in the order in which they are written;
  * `compose_eq_around`  — a handler behind the chain is what the expression makes of the handler;
  * `chains_act_on_handlers` — so chains are a monoid, and composing lets it act on handlers.
-/

namespace Switchyard

namespace ChainExpr

variable {F : Type}

/-! ## The filters as they are written -/

/-- The filters of an expression from left to right, in front of those that are written behind it. -/
def writtenBefore : ChainExpr F → List F → List F
  | identity, behind => behind
  | of f, behind => f :: behind
  | withFilter c f, behind | push c f, behind => c.writtenBefore (f :: behind)
  | andThen c d, behind => c.writtenBefore (d.writtenBefore behind)

/-- The filters of an expression from left to right. -/
def written (e : ChainExpr F) : List F := e.writtenBefore []

theorem writtenBefore_eq (e : ChainExpr F) (behind : List F) : e.writtenBefore behind = e.filters ++ behind := by
  induction e generalizing behind with
  | identity => rfl
  | of f => rfl
  | withFilter c f ih | push c f ih =>
    show c.writtenBefore (f :: behind) = c.filters ++ [f] ++ behind
    rw [ih, List.append_assoc]
    rfl
  | andThen c d ihc ihd =>
    show c.writtenBefore (d.writtenBefore behind) = c.filters ++ d.filters ++ behind
    rw [ihc, ihd, List.append_assoc]

/-- **A chain holds its filters in the order in which they are written**, however it is built. -/
theorem filters_eq_written (e : ChainExpr F) : e.filters = e.written := by
  have h := writtenBefore_eq e []
  rw [List.append_nil] at h
  exact h.symm

/-- Adding filters one at a time, to a chain that is there already. -/
theorem filters_foldl_push (e : ChainExpr F) (fs : List F) : (fs.foldl push e).filters = e.filters ++ fs := by
  induction fs generalizing e with
  | nil => exact (List.append_nil _).symm
  | cons f fs ih =>
    rw [List.foldl_cons, ih]
    show e.filters ++ [f] ++ fs = e.filters ++ f :: fs
    rw [List.append_assoc]
    rfl

theorem filters_ofList (fs : List F) : (ofList fs).filters = fs := filters_foldl_push identity fs

/-! ## What an expression does to a handler -/

variable {σ Req Rep : Type}

/-- A handler behind the chain that an expression builds. -/
def compose (e : ChainExpr (Filter σ Req Rep)) (terminal : Handler σ Req Rep) : Handler σ Req Rep :=
  Chain.compose e.filters terminal

/-- What an expression makes of a handler: a filter stands in front of it, and of two chains the second stands
    in front of it and the first in front of that. -/
def around : ChainExpr (Filter σ Req Rep) → Handler σ Req Rep → Handler σ Req Rep
  | identity, terminal => terminal
  | of f, terminal => f.wrap terminal
  | withFilter c f, terminal | push c f, terminal => c.around (f.wrap terminal)
  | andThen c d, terminal => c.around (d.around terminal)

/-- **A handler behind a chain is what the expression of the chain makes of the handler.** -/
theorem compose_eq_around (e : ChainExpr (Filter σ Req Rep)) (terminal : Handler σ Req Rep) :
    e.compose terminal = e.around terminal := by
  induction e generalizing terminal with
  | identity => rfl
  | of f => rfl
  | withFilter c f ih | push c f ih =>
    show Chain.compose (c.filters ++ [f]) terminal = c.around (f.wrap terminal)
    rw [Chain.compose_append]
    exact ih (f.wrap terminal)
  | andThen c d ihc ihd =>
    show Chain.compose (c.filters ++ d.filters) terminal = c.around (d.around terminal)
    rw [Chain.compose_append, ← ihd]
    exact ihc (d.compose terminal)

end ChainExpr

/-- **Chains are a monoid that acts on handlers**, whatever the filters and the handler do, and whether or not
    they reply alike to every call: what is said to be equal are programs over the whole state.

    * The handler behind a chain is told by the filters of the chain as they are written, and by nothing else of
      the expression that the chain is built with: adding these filters one at a time gives the same handler, and so
      does standing the parts of the expression in front of the handler.
    * Composing goes from the innermost filter outwards.
    * Putting chains behind one another is associative, and the empty chain is neutral on both sides.
    * The empty chain leaves a handler as it is.  One chain behind another, in front of a handler, replies to
      every request as the first does in front of the handler that the second makes. -/
theorem chains_act_on_handlers {σ Req Rep : Type} (terminal : Handler σ Req Rep) :
    (∀ e : ChainExpr (Filter σ Req Rep),
      e.filters = e.written ∧ e.compose terminal = (ChainExpr.ofList e.written).compose terminal ∧
      e.compose terminal = e.around terminal ∧
      e.compose terminal = e.written.reverse.foldl (fun inner f => f.wrap inner) terminal) ∧
    (∀ e e' : ChainExpr (Filter σ Req Rep), e.written = e'.written → e.compose terminal = e'.compose terminal) ∧
    (∀ a b c : ChainExpr (Filter σ Req Rep),
      ((a.andThen b).andThen c).filters = (a.andThen (b.andThen c)).filters ∧
      (ChainExpr.identity.andThen a).filters = a.filters ∧ (a.andThen .identity).filters = a.filters) ∧
    ChainExpr.identity.compose terminal = terminal ∧
    ∀ (a b : ChainExpr (Filter σ Req Rep)) (req : Req),
      (a.andThen b).compose terminal req = a.compose (b.compose terminal) req := by
  have hwritten : ∀ e : ChainExpr (Filter σ Req Rep), e.compose terminal = Chain.compose e.written terminal := by
    intro e
    rw [← e.filters_eq_written]
    rfl
  refine ⟨fun e => ⟨e.filters_eq_written, ?_, e.compose_eq_around terminal, ?_⟩, ?_, ?_, rfl, ?_⟩
  · rw [hwritten, ChainExpr.compose, ChainExpr.filters_ofList]
  · rw [hwritten, List.foldl_reverse]
    rfl
  · intro e e' h
    rw [hwritten e, hwritten e', h]
  · intro a b c
    exact ⟨List.append_assoc .., List.nil_append _, List.append_nil _⟩
  · intro a b req
    have happend := Chain.compose_append a.filters b.filters terminal
    exact congrFun happend req

/-- A handler that fails twice before it replies, behind a filter that asks again while it is refused, between two
    filters that leave marks.  The reply changes from call to call, and is the same for both groupings. -/
theorem chains_act_on_handlers_retried :
    let flaky : Handler Nat Nat Nat := fun req => .step (· + 1) fun calls =>
      .done (if calls < 2 then .error (.ofMessage "transient") else .ok (req + calls))
    let marking (name : String) : Filter Nat Nat Nat := fun req =>
      .note (.mark name) (Prog.call req)
    let retrying : Filter Nat Nat Nat := fun req => (Prog.call req).bind fun first =>
      match first with
      | .ok rep => .done (.ok rep)
      | .error _ => Prog.call req
    let left := ((ChainExpr.of (marking "A")).withFilter retrying).andThen (.of (marking "B"))
    let right := (ChainExpr.identity.push (marking "A")).andThen
      ((ChainExpr.of retrying).andThen (ChainExpr.identity.withFilter (marking "B")))
    left.written = right.written ∧ left.compose flaky = right.compose flaky ∧
    Machine.run (right.compose flaky 5) ⟨0, [], []⟩
      = (some (.error (.ofMessage "transient")), ⟨2, [.mark "B", .mark "B", .mark "A"], []⟩) ∧
    Machine.run (right.compose flaky 5) ⟨2, [], []⟩ = (some (.ok 7), ⟨3, [.mark "B", .mark "A"], []⟩) := by
  intro flaky marking retrying left right
  obtain ⟨-, hwritten, -⟩ := chains_act_on_handlers flaky
  exact ⟨rfl, hwritten left right rfl, rfl, rfl⟩

end Switchyard
