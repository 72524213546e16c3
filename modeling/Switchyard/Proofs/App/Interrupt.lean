import Switchyard.App.Hosting
import Switchyard.Proofs.Shutdown.Signals

/-!
  Which servers an interrupt stops.

  The task that waits for the interrupt runs beside the start of the application, so the interrupt can come
  between any two of its steps.  It sends one signal and ends.  A server that was given its future before the
  interrupt stops; one that gets its future afterwards stands behind the signal, and no other signal follows.

  All listeners are opened before any server gets its future.  An interrupt while they are being opened
  therefore stops nobody (`early_interrupt_is_lost`), and one that comes while the futures are being given stops
  the servers that have theirs: `interrupt_stops_those_with_a_future`.
-/

namespace Switchyard.App

/-! ## Steps -/

/-- The interface whose server a step gives its future. -/
def StartStep.given? : StartStep → Option Interface
  | openListener _ => none
  | giveFuture i => some i

/-- The interfaces whose servers are given their futures, in order. -/
def given (steps : List StartStep) : List Interface := steps.filterMap StartStep.given?

/-- The futures given in two parts of a start are those of one and those of the other. -/
theorem given_append (steps steps' : List StartStep) : given (steps ++ steps') = given steps ++ given steps' :=
  List.filterMap_append

/-- One more server for each of some interfaces, all with futures at the end of the channel. -/
def Hosting.serve (h : Hosting) (is : List Interface) : Hosting :=
  ⟨h.interfaces ++ is,
    { h.shutdown with futures := h.shutdown.futures ++ is.map fun _ => some h.shutdown.sent }⟩

theorem Hosting.serve_nil (h : Hosting) : h.serve [] = h := by
  simp only [serve, List.map_nil, List.append_nil]

/-- Interfaces may be served in one go or one after the other. -/
theorem Hosting.serve_serve (h : Hosting) (is js : List Interface) :
    (h.serve is).serve js = h.serve (is ++ js) := by
  simp only [serve, List.map_append, List.append_assoc]

/-- A step serves the interface that it gives a future, if it gives one. -/
theorem StartStep.perform_eq_serve (h : Hosting) (step : StartStep) :
    step.perform h = h.serve (given [step]) := by
  cases step with
  | openListener i => exact h.serve_nil.symm
  | giveFuture i => rfl

/-- **Any steps serve the interfaces whose servers they give their futures.** -/
theorem foldl_perform (steps : List StartStep) (h : Hosting) :
    steps.foldl StartStep.perform h = h.serve (given steps) := by
  induction steps generalizing h with
  | nil => exact h.serve_nil.symm
  | cons step steps ih =>
    calc (step :: steps).foldl StartStep.perform h = (step.perform h).serve (given steps) := ih _
      _ = h.serve (given [step] ++ given steps) := by rw [StartStep.perform_eq_serve, Hosting.serve_serve]
      _ = h.serve (given ([step] ++ steps)) := by rw [given_append]

/-! ## The interrupt -/

namespace Hosting

variable {h : Hosting}

/-- As long as a handle is alive, a server stops just if its future stands before the end of the channel. -/
theorem isReady_eq {handle p : Nat} (halive : h.shutdown.isAlive handle = true) :
    h.isReady (some p) = decide (p < h.shutdown.sent) := by
  rw [isReady, decide_eq_decide, ne_eq, Shutdown.receive_eq_empty_iff halive, Nat.not_le]

/-- The application keeps its handle. -/
theorem isAlive_interrupt (halive : h.shutdown.isAlive 0 = true) : h.interrupt.shutdown.isAlive 0 = true := by
  rw [interrupt, Shutdown.isAlive_drop, if_neg (by decide), Shutdown.isAlive, Shutdown.handles_trigger.1]
  exact halive

/-- The signal is sent if some server waits for it. -/
theorem sent_interrupt {i : Interface} {is : List Interface} (his : i ∈ is) (hnone : h.shutdown.futures = []) :
    (h.serve is).interrupt.shutdown.sent = h.shutdown.sent + 1 := by
  have hfirst : (h.serve is).shutdown.position? 0 = some h.shutdown.sent := by
    cases is with
    | nil => nomatch his
    | cons j js => simp [serve, hnone, Shutdown.position?]
  exact Shutdown.sent_trigger hfirst

end Hosting

/-- **Just the servers stop that were given their futures before the interrupt.** -/
theorem stopped_interruptedBetween (before after : List StartStep) :
    (interruptedBetween before after).interfaces = given before ++ given after ∧
      (interruptedBetween before after).stopped =
        (given before).map (fun _ => true) ++ (given after).map (fun _ => false) := by
  rw [interruptedBetween, foldl_perform, foldl_perform]
  set between := (beforeStart.serve (given before)).interrupt with hbetween
  have halive : between.shutdown.isAlive 0 = true := Hosting.isAlive_interrupt rfl
  have hfutures : between.shutdown.futures = (given before).map fun _ => some 0 := Shutdown.handles_trigger.2
  have hready : ∀ p, (between.serve (given after)).isReady (some p) = decide (p < between.shutdown.sent) :=
    fun p => Hosting.isReady_eq (h := between.serve (given after)) halive
  -- without any server that waits no signal is sent, so this is said of each of them
  have hfirst : ∀ i ∈ given before, (between.serve (given after)).isReady (some 0) = true := by
    intro i hi
    rw [hready, hbetween, Hosting.sent_interrupt hi rfl]
    rfl
  have hlater : (between.serve (given after)).isReady (some between.shutdown.sent) = false := by
    rw [hready]
    exact decide_eq_false (Nat.lt_irrefl _)
  refine ⟨rfl, ?_⟩
  calc (between.serve (given after)).stopped
      = (given before).map (fun _ => (between.serve (given after)).isReady (some 0)) ++
          (given after).map (fun _ => (between.serve (given after)).isReady (some between.shutdown.sent)) := by
        simp only [Hosting.stopped, Hosting.serve, hfutures, List.map_append, List.map_map]
        rfl
    _ = _ := by rw [List.map_congr_left hfirst, hlater]

/-- All servers stop just if none is given its future after the interrupt. -/
theorem all_stopped_iff (before after : List StartStep) :
    (interruptedBetween before after).stopped.all id = true ↔ given after = [] := by
  have hbefore : (given before).all (id ∘ fun _ => true) = true := List.all_eq_true.mpr fun _ _ => rfl
  rw [(stopped_interruptedBetween before after).2, List.all_append, List.all_map, List.all_map, hbefore,
    Bool.true_and]
  cases given after with
  | nil => exact iff_of_true rfl rfl
  | cons i is => exact iff_of_false (by simp) (List.cons_ne_nil i is)

/-- Just the servers go on that are given their futures after the interrupt. -/
theorem accepts_interruptedBetween (before after : List StartStep) (i : Interface) :
    (interruptedBetween before after).accepts .connected i = true ↔ i ∈ given after := by
  obtain ⟨hinterfaces, hstopped⟩ := stopped_interruptedBetween before after
  have hpairs : (interruptedBetween before after).interfaces.zip (interruptedBetween before after).stopped =
      (given before).map (fun i => (i, true)) ++ (given after).map (fun i => (i, false)) := by
    rw [hinterfaces, hstopped, List.zip_append (List.length_map _).symm, List.map_prod_left_eq_zip,
      List.map_prod_left_eq_zip]
  rw [Hosting.accepts, decide_eq_true rfl, Bool.true_and, hpairs, List.contains_iff_mem, List.mem_append,
    List.mem_map, List.mem_map]
  constructor
  · rintro (⟨j, -, heq⟩ | ⟨j, hj, heq⟩)
    · cases heq
    · cases heq
      exact hj
  · exact fun hi => Or.inr ⟨i, hi, rfl⟩

/-! ## The application's own steps -/

/-- Opening listeners gives no futures. -/
theorem given_openListener (is : List Interface) : given (is.map .openListener) = [] := by
  rw [given, List.filterMap_map]
  exact List.filterMap_eq_nil_iff.mpr fun _ _ => rfl

/-- Giving futures gives one to each interface. -/
theorem given_giveFuture (is : List Interface) : given (is.map .giveFuture) = is := by
  rw [given, List.filterMap_map]
  exact List.filterMap_some

/-- How many servers have their futures after so many steps: the listeners are opened first. -/
def reached (adminEnabled : Bool) (point : Nat) : Nat := point - (servedInterfaces adminEnabled).length

/-- **Up to a point of the start** the first interfaces have a future, as many as it has come to. -/
theorem given_take_startSteps (adminEnabled : Bool) (point : Nat) :
    given ((startSteps adminEnabled).take point) =
      (servedInterfaces adminEnabled).take (reached adminEnabled point) := by
  rw [startSteps, List.take_append, given_append, ← List.map_take, ← List.map_take, given_openListener,
    given_giveFuture, List.length_map, List.nil_append, reached]

/-- The others get theirs afterwards. -/
theorem given_drop_startSteps (adminEnabled : Bool) (point : Nat) :
    given ((startSteps adminEnabled).drop point) =
      (servedInterfaces adminEnabled).drop (reached adminEnabled point) := by
  rw [startSteps, List.drop_append, given_append, ← List.map_drop, ← List.map_drop, given_openListener,
    given_giveFuture, List.length_map, List.nil_append, reached]

/-- A start has two steps for each interface. -/
theorem length_startSteps (adminEnabled : Bool) : (startSteps adminEnabled).length =
    (servedInterfaces adminEnabled).length + (servedInterfaces adminEnabled).length := by
  rw [startSteps, List.length_append, List.length_map, List.length_map]

/-- **An interrupt stops the servers that have their futures, and no others.**  Wherever it comes, all interfaces
    are served, and the first of them have stopped: as many as were given their futures.  All of them have
    stopped just if the interrupt came after the last step of starting; those that have not accept requests. -/
theorem interrupt_stops_those_with_a_future (adminEnabled : Bool) (point : Nat) :
    (startInterrupted adminEnabled point).interfaces = servedInterfaces adminEnabled ∧
    (startInterrupted adminEnabled point).stopped =
      ((servedInterfaces adminEnabled).take (reached adminEnabled point)).map (fun _ => true) ++
        ((servedInterfaces adminEnabled).drop (reached adminEnabled point)).map (fun _ => false) ∧
    ((startInterrupted adminEnabled point).stopped.all id = true ↔
      (startSteps adminEnabled).length ≤ point) ∧
    ∀ i, (startInterrupted adminEnabled point).accepts .connected i = true ↔
      i ∈ (servedInterfaces adminEnabled).drop (reached adminEnabled point) := by
  obtain ⟨hinterfaces, hstopped⟩ :=
    stopped_interruptedBetween ((startSteps adminEnabled).take point) ((startSteps adminEnabled).drop point)
  rw [given_take_startSteps, given_drop_startSteps] at hinterfaces hstopped
  refine ⟨hinterfaces.trans (List.take_append_drop _ _), hstopped, ?_, fun i => ?_⟩
  · have hserved : 0 < (servedInterfaces adminEnabled).length := by
      cases adminEnabled with
      | true => decide
      | false => decide
    rw [startInterrupted, all_stopped_iff, given_drop_startSteps, List.drop_eq_nil_iff, length_startSteps,
      reached]
    omega
  · rw [startInterrupted, accepts_interruptedBetween, given_drop_startSteps]

/-- An interrupt between the opening of the two listeners comes to nothing: both servers begin afterwards and
    neither stops. -/
theorem early_interrupt_is_lost :
    ¬ ∀ adminEnabled point, (startInterrupted adminEnabled point).stopped.all id = true := by
  intro hall
  exact absurd (hall true 1) (by decide)

end Switchyard.App
