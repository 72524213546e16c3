import Switchyard.Proofs.Filter.Ending
import Switchyard.Proofs.Filter.Stays
import Switchyard.Script.Stage

/-!
  The traces of chains of recording filters.

  A recording filter leaves a mark before it runs the rest of the path and one after that.  Between recording
  filters there may be any filters that run the rest of the path a fixed number of times, such as none at all,
  with a reply or a failure of their own (`Layer`).  The trace of a request is what the stages note, each with
  the number of its stage.

  At any time some recording filters are open: they left their first mark and not yet their second.  A trace
  nests (`Nests`) if nothing is ever noted by a stage unless the open ones are all recording filters outside
  of it.  So first marks come in the order of the chain, and second marks in the reverse order.

  * `nests_of_account`     — whatever has been told of a request, its trace nests;
  * `bracketed_of_account` — the two marks of a recording filter stand around what is noted inside of it;
  * `stage_le_of_stopping` — nothing is told of what is behind a filter that does not run the rest of the path;
  * `Onion`, `chains_are_onions` — all this of whole chains, and how often the handler at the end is called;
  * `Script.onion_of_run`  — the chains of scripted filters that record, reply, fail or run the rest twice.
-/

namespace Switchyard

variable {σ Req Rep : Type}

/-! ## The filters -/

/-- A filter in a chain that is traced. -/
inductive Layer (σ Req Rep : Type) where
  /-- Leaves a mark, runs the rest of the path, and leaves another mark. -/
  | recording (name : String)
  /-- Runs the rest of the path a fixed number of times. -/
  | fixed (times : Nat) (f : Filter σ Req Rep) (asks : ∀ req, (f req).AsksTimes times)

namespace Layer

/-- The filter itself. -/
def filter : Layer σ Req Rep → Filter σ Req Rep
  | recording name => fun req => do
    Prog.mark (name ++ ".pre")
    let outcome ← Prog.call req
    Prog.mark (name ++ ".post")
    pure outcome
  | fixed _ f _ => f

/-- How often the filter runs the rest of the path. -/
def times : Layer σ Req Rep → Nat
  | recording _ => 1
  | fixed times _ _ => times

theorem asksTimes (layer : Layer σ Req Rep) (req : Req) : (layer.filter req).AsksTimes layer.times := by
  cases layer with
  | recording name => exact fun _ => rfl
  | fixed times f asks => exact asks req

/-- Notes something and replies, without running the rest of the path. -/
def short (notes : List Observation) (reply : Req → Rep) : Layer σ Req Rep :=
  .fixed 0 (fun req => (Prog.observeAll notes).bind fun _ => .done (.ok (reply req))) fun _ =>
    (Prog.asksTimes_observeAll notes).bind fun _ => Prog.asksTimes_done _

/-- Notes something and fails, without running the rest of the path. -/
def failing (notes : List Observation) (failure : Req → Failure) : Layer σ Req Rep :=
  .fixed 0 (fun req => (Prog.observeAll notes).bind fun _ => .done (.error (failure req))) fun _ =>
    (Prog.asksTimes_observeAll notes).bind fun _ => Prog.asksTimes_done _

/-- Runs the rest of the path, notes something, and fails. -/
def failingAfter (notes : List Observation) (failure : Req → Failure) : Layer σ Req Rep :=
  .fixed 1 (fun req => (Prog.call req).bind fun _ =>
    (Prog.observeAll notes).bind fun _ => .done (.error (failure req))) fun req =>
      (Prog.asksTimes_call req).bind fun _ => (Prog.asksTimes_observeAll notes).bind fun _ => Prog.asksTimes_done _

/-- Run the rest of the path so many more times, each time with a request that is made from the outcomes before,
    and collect the outcomes. -/
def askAgain (next : List (Outcome Rep) → Req) :
    Nat → List (Outcome Rep) → Flow σ Req (Outcome Rep) (List (Outcome Rep))
  | 0, outcomes => .done outcomes
  | n + 1, outcomes => (Prog.call (next outcomes)).bind fun o => askAgain next n (outcomes ++ [o])

theorem asksTimes_askAgain (next : List (Outcome Rep) → Req) (n : Nat) (outcomes : List (Outcome Rep)) :
    (askAgain next n outcomes : Flow σ Req (Outcome Rep) _).AsksTimes n := by
  induction n generalizing outcomes with
  | zero => rfl
  | succ n ih => exact fun o => ih (outcomes ++ [o])

/-- Runs the rest of the path so many times in sequence, and settles on an outcome. -/
def repeating (times : Nat) (next : Req → List (Outcome Rep) → Req)
    (settle : List (Outcome Rep) → Outcome Rep) : Layer σ Req Rep :=
  .fixed times (fun req => (askAgain (next req) times []).bind fun outcomes => .done (settle outcomes)) fun req =>
    (asksTimes_askAgain (next req) times []).bind fun _ => Prog.asksTimes_done _

end Layer

/-- The layer that a scripted filter is, if it is one of these sorts. -/
def Script.Stage.layer? : Script.Stage Rep → Option (Layer Script.World Req Rep)
  | .record name => some (.recording name)
  | .short name reply => some (.short [.mark (name ++ ".short")] fun _ => reply)
  | .fail name false raise =>
    some (.failing (.mark (name ++ ".fail") :: raise.events.map .event) fun _ => raise.failure)
  | .fail name true raise =>
    some (.failingAfter (.mark (name ++ ".fail") :: raise.events.map .event) fun _ => raise.failure)
  | .twice keepFirst => some (.repeating 2 (fun req _ => req) fun outcomes =>
    (if keepFirst then outcomes.head? else outcomes.getLast?).getD (.error (.ofMessage "")))
  | _ => none

/-- The scripted filter is the filter of its layer. -/
theorem Script.Stage.filter_of_layer? {stage : Script.Stage Rep} {layer : Layer Script.World Req Rep}
    (h : stage.layer? = some layer) (dialect : Script.Dialect Req Rep) (id : DarkId) :
    stage.filter dialect id = layer.filter := by
  cases stage with
  | record name =>
    obtain rfl := Option.some.inj h
    rfl
  | short name reply =>
    obtain rfl := Option.some.inj h
    rfl
  | fail name after raise =>
    cases after with
    | false =>
      obtain rfl := Option.some.inj h
      rfl
    | true =>
      obtain rfl := Option.some.inj h
      rfl
  | twice keepFirst =>
    obtain rfl := Option.some.inj h
    cases keepFirst with
    | false => rfl
    | true => rfl
  | _ => cases h

/-! ## Traces -/

/-- What an entry says that a stage notes. -/
def Entry.noted? : Entry σ Req Rep → Option (Nat × Observation)
  | act i (.noted o) => some (i, o)
  | _ => none

/-- What the stages note, each with its number. -/
def trace (es : List (Entry σ Req Rep)) : List (Nat × Observation) := es.filterMap Entry.noted?

theorem trace_append (es es' : List (Entry σ Req Rep)) : trace (es ++ es') = trace es ++ trace es' :=
  List.filterMap_append

theorem trace_visit (i : Nat) (req : Req) (inner : List (Entry σ Req Rep)) (r : Option (Outcome Rep)) :
    trace (.enter i req :: (inner ++ Entry.leaving i r)) = trace inner := by
  show trace (inner ++ Entry.leaving i r) = _
  rw [trace_append]
  cases r with
  | none => exact List.append_nil _
  | some o => exact List.append_nil _

/-- What the stages note is what their actions leave in the record. -/
theorem map_snd_trace (es : List (Entry σ Req Rep)) :
    (trace es).map Prod.snd = Prog.entries (es.filterMap Entry.act?) := by
  induction es with
  | nil => rfl
  | cons e es ih =>
    cases e with
    | enter i req => exact ih
    | leave i o => exact ih
    | act i a =>
      cases a with
      | noted o => exact congrArg (o :: ·) ih
      | changed before after => exact ih
      | lookedBack past => exact ih
      | launched job => exact ih
      | waited ms => exact ih

/-- The recording filters among the first so many, the innermost first. -/
def recorders (layers : List (Layer σ Req Rep)) : Nat → List Nat
  | 0 => []
  | i + 1 =>
    match layers[i]? with
    | some (.recording _) => i :: recorders layers i
    | _ => recorders layers i

/-- What is noted leads from some open recording filters, the innermost first, to others.  A recording filter
    opens if the open ones are those outside of it, and it closes if it is the innermost that is open.  Any
    other stage, and the handler at the end, notes something if the open ones are those outside of it. -/
inductive Nests (layers : List (Layer σ Req Rep)) :
    List Nat → List (Nat × Observation) → List Nat → Prop where
  | nil (opened : List Nat) : Nests layers opened [] opened
  | pre {i : Nat} {name : String} {later : List (Nat × Observation)} {opened : List Nat}
      (hlayer : layers[i]? = some (.recording name)) (h : Nests layers (i :: recorders layers i) later opened) :
      Nests layers (recorders layers i) ((i, .mark (name ++ ".pre")) :: later) opened
  | post {i : Nat} {name : String} {later : List (Nat × Observation)} {opened : List Nat}
      (hlayer : layers[i]? = some (.recording name)) (h : Nests layers (recorders layers i) later opened) :
      Nests layers (i :: recorders layers i) ((i, .mark (name ++ ".post")) :: later) opened
  | other {i : Nat} {o : Observation} {later : List (Nat × Observation)} {opened : List Nat}
      (hlayer : ∀ name, layers[i]? ≠ some (.recording name)) (h : Nests layers (recorders layers i) later opened) :
      Nests layers (recorders layers i) ((i, o) :: later) opened

section Nesting

variable {layers : List (Layer σ Req Rep)} {i : Nat}

theorem recorders_of_recording {name : String} (h : layers[i]? = some (.recording name)) :
    recorders layers (i + 1) = i :: recorders layers i := by
  rw [recorders, h]

theorem recorders_of_other (h : ∀ name, layers[i]? ≠ some (.recording name)) :
    recorders layers (i + 1) = recorders layers i := by
  rw [recorders]
  split
  · rename_i name heq
    exact absurd heq (h name)
  · rfl

/-- One trace after the other. -/
theorem Nests.append {opened opened' opened'' : List Nat} {first second : List (Nat × Observation)}
    (h : Nests layers opened first opened') (h' : Nests layers opened' second opened'') :
    Nests layers opened (first ++ second) opened'' := by
  induction h with
  | nil opened => exact h'
  | pre hlayer _ ih => exact .pre hlayer (ih h')
  | post hlayer _ ih => exact .post hlayer (ih h')
  | other hlayer _ ih => exact .other hlayer (ih h')

/-- What is told nests, from some open recording filters on, and if it comes to a value, then just these are open
    in the end. -/
def NestsFrom {α : Type} (layers : List (Layer σ Req Rep)) (opened : List Nat) (es : List (Entry σ Req Rep))
    (x : Option α) : Prop :=
  ∃ opened', Nests layers opened (trace es) opened' ∧ ∀ a, x = some a → opened' = opened

theorem NestsFrom.nil {α : Type} (opened : List Nat) (x : Option α) :
    NestsFrom layers opened ([] : List (Entry σ Req Rep)) x := ⟨opened, .nil opened, fun _ _ => rfl⟩

/-- What comes to a value, and what is told after that. -/
theorem NestsFrom.append {α β : Type} {opened : List Nat} {es es' : List (Entry σ Req Rep)} {a : α} {y : Option β}
    (h : NestsFrom layers opened es (some a)) (h' : NestsFrom layers opened es' y) :
    NestsFrom layers opened (es ++ es') y := by
  obtain ⟨opened₁, hfirst, hback⟩ := h
  obtain rfl : opened₁ = opened := hback a rfl
  obtain ⟨opened₂, hsecond, hlast⟩ := h'
  rw [NestsFrom, trace_append]
  exact ⟨opened₂, hfirst.append hsecond, hlast⟩

/-- **A stage that does not record only notes something while the recording filters outside of it are open**, if
    whatever it asks nests in these. -/
theorem nestsFrom_of_runs (hother : ∀ name, layers[i]? ≠ some (.recording name)) {Q A α : Type}
    {next : Q → List (Entry σ Req Rep) → Option A → Prop} {p : Flow σ Q A α} {es : List (Entry σ Req Rep)}
    {x : Option α} (hnext : ∀ q es a?, next q es a? → NestsFrom layers (recorders layers i) es a?)
    (h : Prog.Runs next (.act i) p es x) : NestsFrom layers (recorders layers i) es x := by
  induction h with
  | stop p => exact .nil _ _
  | done a => exact .nil _ _
  | step s _ ih => exact ih
  | lookBack past _ ih => exact ih
  | launch _ ih => exact ih
  | wait _ ih => exact ih
  | note _ ih =>
    obtain ⟨opened, hlater, hback⟩ := ih
    exact ⟨opened, .other hother hlater, hback⟩
  | asked hq =>
    obtain ⟨opened, hinner, -⟩ := hnext _ _ _ hq
    exact ⟨opened, hinner, fun a ha => nomatch ha⟩
  | answered a hq _ ih => exact (hnext _ _ _ hq).append ih

/-- **A recording filter opens, and closes with what it asks nested inside of it.** -/
theorem nestsFrom_of_recording {name : String} (hlayer : layers[i]? = some (.recording name))
    {next : Req → List (Entry σ Req Rep) → Option (Outcome Rep) → Prop} {req : Req}
    {es : List (Entry σ Req Rep)} {r : Option (Outcome Rep)}
    (hnext : ∀ q es a?, next q es a? → NestsFrom layers (recorders layers (i + 1)) es a?)
    (h : Prog.Runs next (.act i) ((Layer.recording name).filter req) es r) :
    NestsFrom layers (recorders layers i) es r := by
  rw [recorders_of_recording hlayer] at hnext
  cases h with
  | stop => exact .nil _ _
  | note h =>
  cases h with
  | stop => exact ⟨_, .pre hlayer (.nil _), fun o ho => nomatch ho⟩
  | asked hq =>
    obtain ⟨opened, hinner, -⟩ := hnext _ _ _ hq
    exact ⟨opened, .pre hlayer hinner, fun o ho => nomatch ho⟩
  | @answered q k inner later r a hq h =>
    obtain ⟨opened, hinner, hback⟩ := hnext _ _ _ hq
    obtain rfl := hback a rfl
    rcases Prog.runs_note_iff.mp h with ⟨rfl, rfl⟩ | ⟨rest, hdone, rfl⟩
    · rw [List.append_nil]
      exact ⟨_, .pre hlayer hinner, fun o ho => nomatch ho⟩
    · obtain ⟨rfl, -⟩ := Prog.runs_done_iff.mp hdone
      have hclosed : Nests layers (i :: recorders layers i)
          (trace (inner ++ [.act i (.noted (.mark (name ++ ".post")))])) (recorders layers i) := by
        rw [trace_append]
        exact hinner.append (.post hlayer (.nil _))
      exact ⟨_, .pre hlayer hclosed, fun _ _ => rfl⟩

/-- **Whatever has been told of a request, its trace nests.**  The stages from one on leave the recording filters
    open that are outside of them, once they are over. -/
theorem nests_of_account {terminal : Handler σ Req Rep} {before rest : List (Layer σ Req Rep)}
    (hlayers : layers = before ++ rest) {req : Req} {es : List (Entry σ Req Rep)} {r : Option (Outcome Rep)}
    (h : Chain.Account terminal (rest.map Layer.filter) before.length req es r) :
    NestsFrom layers (recorders layers before.length) es r := by
  induction rest generalizing before req es r with
  | nil =>
    obtain ⟨inner, hbody, rfl⟩ := h
    rw [NestsFrom, trace_visit]
    refine nestsFrom_of_runs (fun name hname => ?_) (fun q => q.elim) hbody
    rw [hlayers, List.append_nil, List.getElem?_eq_none (Nat.le_refl _)] at hname
    cases hname
  | cons layer rest ih =>
    obtain ⟨inner, hbody, rfl⟩ := h
    rw [NestsFrom, trace_visit]
    have hlayer : layers[before.length]? = some layer := hlayers ▸ getElem?_behind before rest layer
    have hinside : ∀ q es a?, Chain.Account terminal (rest.map Layer.filter) (before.length + 1) q es a? →
        NestsFrom layers (recorders layers (before.length + 1)) es a? := by
      intro q es a? haccount
      have hlength : (before ++ [layer]).length = before.length + 1 := List.length_append
      rw [← hlength] at haccount ⊢
      refine ih ?_ haccount
      rw [hlayers, List.append_assoc]
      rfl
    cases layer with
    | recording name => exact nestsFrom_of_recording hlayer hinside hbody
    | fixed times f asks =>
      have hother : ∀ name, layers[before.length]? ≠ some (.recording name) := by
        intro name hname
        cases hlayer.symm.trans hname
      rw [recorders_of_other hother] at hinside
      exact nestsFrom_of_runs hother hinside hbody

end Nesting

/-! ## Stages that record, and stages that stop -/

section Stages

variable {terminal : Handler σ Req Rep} {c outer : Chain σ Req Rep} {i : Nat} {req : Req}
  {es : List (Entry σ Req Rep)} {r : Option (Outcome Rep)}

/-- The trace has the two marks of a stage around what the stages inside of it note. -/
def Bracketed (i : Nat) (name : String) (es : List (Entry σ Req Rep)) : Prop :=
  ∃ inner, trace es = (i, .mark (name ++ ".pre")) :: (inner ++ [(i, .mark (name ++ ".post"))]) ∧
    ∀ noted ∈ inner, i < noted.1

/-- **What a recording filter makes of a request that is over is bracketed by its marks.** -/
theorem bracketed_of_account {name : String} {o : Outcome Rep}
    (h : Chain.Account terminal ((Layer.recording name).filter :: c) i req es (some o)) :
    Bracketed i name es := by
  obtain ⟨inner, hbody, rfl⟩ := h
  rw [Bracketed, trace_visit]
  cases hbody with
  | note hask =>
    obtain ⟨a, told, last, haccount, hpost, rfl⟩ := Prog.runs_ask_iff.mp hask
    rcases Prog.runs_note_iff.mp hpost with ⟨-, hnone⟩ | ⟨rest, hdone, rfl⟩
    · cases hnone
    · obtain ⟨rfl, -⟩ := Prog.runs_done_iff.mp hdone
      refine ⟨trace told, congrArg (_ :: ·) (trace_append _ _), fun noted hnoted => ?_⟩
      obtain ⟨e, he, htold⟩ := List.mem_filterMap.mp hnoted
      have hle : i + 1 ≤ e.stage := Chain.le_stage haccount he
      cases e with
      | act k act =>
        cases act with
        | noted observation =>
          obtain rfl := Option.some.inj htold
          exact hle
        | changed | lookedBack | launched | waited => cases htold
      | enter | leave => cases htold

/-- **Behind a stage that asks nothing, nothing is told.** -/
theorem stage_le_of_stopping {f : Filter σ Req Rep} (hf : ∀ req, (f req).AsksTimes 0)
    (h : Chain.Account terminal (outer ++ f :: c) i req es r) {e : Entry σ Req Rep} (he : e ∈ es) :
    e.stage ≤ i + outer.length := by
  by_contra hlt
  obtain ⟨stays, hstays, -⟩ := Chain.exists_stays h
  -- an entry of a stage further inside would be told of a stay at this stage
  have hfrom : e ∈ Chain.toldFrom (i + outer.length) es :=
    List.mem_filter.mpr ⟨he, decide_eq_true (Nat.le_of_not_le hlt)⟩
  rw [hstays.told] at hfrom
  obtain ⟨stay, hstay, he⟩ := List.mem_flatMap.mp hfrom
  rcases Chain.entry_of_account (hstays.accounts stay hstay) he with
    rfl | ⟨a, rfl⟩ | ⟨o, rfl, -⟩ | ⟨q, es', a?, hasks, -⟩
  · exact hlt (Nat.le_refl _)
  · exact hlt (Nat.le_refl _)
  · exact hlt (Nat.le_refl _)
  · exact (hf stay.req).not_asks hasks

end Stages

/-! ## Whole chains -/

/-- What is told of a request on its way through a chain of such filters and the handler at its end. -/
structure Onion (layers : List (Layer σ Req Rep)) (terminal : Handler σ Req Rep) (req : Req)
    (es : List (Entry σ Req Rep)) (r : Option (Outcome Rep)) : Prop where
  account : Chain.Account terminal (layers.map Layer.filter) 0 req es r
  /-- The trace nests, and no recording filter is open any more once the request is over. -/
  nested : NestsFrom layers [] es r
  /-- A filter that does not run the rest of the path leaves no entry of any later stage. -/
  stopped : ∀ before layer inside, layers = before ++ layer :: inside → layer.times = 0 →
    ∀ e ∈ es, e.stage ≤ before.length
  /-- From every filter on, what is told are passes through all of the rest of the chain.  If the request is
      over, so are they, and there are as many as the filters outside make together; and those that begin with
      a recording filter are bracketed by its marks. -/
  replayed : ∀ before rest, layers = before ++ rest →
    ∃ stays, Chain.Stays terminal (rest.map Layer.filter) before.length stays es ∧
      (∀ o, r = some o → Chain.AllOver stays ∧ stays.length = (before.map Layer.times).prod) ∧
      ∀ name inside, rest = .recording name :: inside → ∀ stay ∈ stays, ∀ o, stay.outcome? = some o →
        Bracketed before.length name stay.entries
  /-- If the request is over, the handler at the end was called as often as all filters make together. -/
  called : ∀ o, r = some o → (Chain.entered layers.length es).length = (layers.map Layer.times).prod

theorem forall₂_asksTimes (layers : List (Layer σ Req Rep)) :
    List.Forall₂ (fun f n => ∀ req, (f req).AsksTimes n) (layers.map Layer.filter) (layers.map Layer.times) := by
  rw [List.forall₂_map_left_iff, List.forall₂_map_right_iff]
  exact List.forall₂_same.mpr fun layer _ => layer.asksTimes

theorem onion_of_account {layers : List (Layer σ Req Rep)} {terminal : Handler σ Req Rep} {req : Req}
    {es : List (Entry σ Req Rep)} {r : Option (Outcome Rep)}
    (h : Chain.Account terminal (layers.map Layer.filter) 0 req es r) : Onion layers terminal req es r := by
  have hsplit : ∀ before rest, layers = before ++ rest →
      ∃ stays, Chain.Stays terminal (rest.map Layer.filter) before.length stays es ∧
        ∀ o, r = some o → Chain.AllOver stays ∧ stays.length = (before.map Layer.times).prod := by
    intro before rest hlayers
    rw [hlayers, List.map_append] at h
    obtain ⟨stays, hstays, hover⟩ := Chain.exists_stays h
    rw [Nat.zero_add, List.length_map] at hstays
    exact ⟨stays, hstays, fun o ho => (hover o ho).imp_right fun hcount => hcount _ (forall₂_asksTimes before)⟩
  have hlayers : layers = [] ++ layers := rfl
  refine ⟨h, nests_of_account hlayers h, ?_, ?_, ?_⟩
  · intro before layer inside hlayers htimes e he
    rw [hlayers, List.map_append, List.map_cons] at h
    have hstage := stage_le_of_stopping (fun req => htimes ▸ layer.asksTimes req) h he
    rw [Nat.zero_add, List.length_map] at hstage
    exact hstage
  · intro before rest hlayers
    obtain ⟨stays, hstays, hover⟩ := hsplit before rest hlayers
    refine ⟨stays, hstays, hover, ?_⟩
    rintro name inside rfl stay hstay o ho
    have haccount := hstays.accounts stay hstay
    rw [ho] at haccount
    exact bracketed_of_account haccount
  · intro o ho
    obtain ⟨stays, hstays, hover⟩ := hsplit layers [] (List.append_nil _).symm
    rw [Chain.entered_of_stays hstays, List.length_map]
    exact (hover o ho).2

theorem Prog.AsksTimes.ends {σ δ Q A α : Type} {p : Prog σ δ Q A α} {n : Nat} (h : p.AsksTimes n) : p.Ends := by
  induction p generalizing n with
  | done a => exact trivial
  | halt => exact h
  | step u k ih => exact fun s => ih s (h s)
  | note o k ih => exact ih h
  | lookBack k ih => exact fun past => ih past (h past)
  | launch j k ih => exact ih h
  | wait ms k ih => exact ih h
  | ask q k ih =>
    cases n with
    | zero => exact h.elim
    | succ n => exact fun a => ih a (h a)

/-- **A chain of scripted filters of these sorts is told of like that**, whatever the dialect is. -/
theorem Script.onion_of_run {dialect : Script.Dialect Req Rep} {id : DarkId} {stages : List (Script.Stage Rep)}
    {layers : List (Layer Script.World Req Rep)}
    (hlayers : List.Forall₂ (fun stage layer => stage.layer? = some layer) stages layers)
    {terminal : Handler Script.World Req Rep} {req : Req} {acts : List (Prog.Action Script.World Job)}
    {r : Option (Outcome Rep)}
    (hrun : Prog.Run (Chain.compose (stages.map fun stage => stage.filter dialect id) terminal req) acts r) :
    ∃ es, acts = es.filterMap Entry.act? ∧ Onion layers terminal req es r := by
  have hfilters : stages.map (fun stage => stage.filter dialect id) = layers.map Layer.filter := by
    rw [← List.forall₂_eq_eq_eq, List.forall₂_map_left_iff, List.forall₂_map_right_iff]
    exact hlayers.imp fun _ _ h => Script.Stage.filter_of_layer? h dialect id
  rw [hfilters] at hrun
  obtain ⟨es, haccount, rfl⟩ := (Chain.run_compose_iff terminal _ 0 req acts r).mp hrun
  exact ⟨es, rfl, onion_of_account haccount⟩

/-- Such filters come to an end. -/
theorem ends_layers (layers : List (Layer σ Req Rep)) : Chain.Ends (layers.map Layer.filter) :=
  List.forall_mem_map.mpr fun layer _ req => (layer.asksTimes req).ends

/-- **Chains of recording filters, and of filters that run the rest of the path a fixed number of times, are
    onions**, around any handler.

    A run of such a chain, told up to any point, is read off what is told of its stages (`Onion`), and the record
    has what they note.  If the handler at the end always comes to an end, so does the chain, on any machine. -/
theorem chains_are_onions (layers : List (Layer σ Req Rep)) (terminal : Handler σ Req Rep) (req : Req) :
    (∀ acts r, Prog.Run (Chain.compose (layers.map Layer.filter) terminal req) acts r →
      ∃ es, acts = es.filterMap Entry.act? ∧ Prog.entries acts = (trace es).map Prod.snd ∧
        Onion layers terminal req es r) ∧
    ((∀ q, (terminal q).Ends) → ∀ m : Machine σ, ∃ o m' acts,
      Machine.run (Chain.compose (layers.map Layer.filter) terminal req) m = (some o, m') ∧
        Prog.Run (Chain.compose (layers.map Layer.filter) terminal req) acts (some o)) := by
  refine ⟨fun acts r hrun => ?_, fun hterminal m => ?_⟩
  · obtain ⟨es, haccount, rfl⟩ := (Chain.run_compose_iff terminal _ 0 req acts r).mp hrun
    exact ⟨es, rfl, (map_snd_trace es).symm, onion_of_account haccount⟩
  · obtain ⟨o, m', acts, hrun, hacts⟩ :=
      Machine.exists_run_of_ends (Chain.ends_compose (ends_layers layers) hterminal req) m
    exact ⟨o, m', acts, hrun, hacts⟩

/-- Two recording filters, behind each of which a filter runs the rest of the path twice, or three times: the
    handler is called six times, and there is nothing behind a filter that replies itself. -/
theorem chains_are_onions_retried :
    let a : Layer Unit Nat Nat := .recording "A"
    let twice : Layer Unit Nat Nat := .repeating 2 (fun q _ => q) fun _ => .ok 2
    let b : Layer Unit Nat Nat := .recording "B"
    let thrice : Layer Unit Nat Nat := .repeating 3 (fun q outcomes => q + outcomes.length) fun _ => .ok 3
    let deny : Layer Unit Nat Nat := .short [.mark "deny"] fun _ => 403
    let failing : Handler Unit Nat Nat := fun _ => .note (.mark "T") (.done (.error (.ofMessage "transient")))
    (∃ acts o, ∃ es : List (Entry Unit Nat Nat),
      Prog.Run (Chain.compose ([a, twice, b, thrice].map Layer.filter) failing 7) acts (some o) ∧
      acts = es.filterMap Entry.act? ∧ NestsFrom [a, twice, b, thrice] [] es (some o) ∧
      (Chain.entered 4 es).length = 6) ∧
    ∃ acts o, ∃ es : List (Entry Unit Nat Nat),
      Prog.Run (Chain.compose ([a, twice, deny, b].map Layer.filter) failing 7) acts (some o) ∧
      acts = es.filterMap Entry.act? ∧ Bracketed 0 "A" es ∧ ∀ e ∈ es, e.stage ≤ 2 := by
  intro a twice b thrice deny failing
  have hends : ∀ q, (failing q).Ends := fun q => trivial
  refine ⟨?_, ?_⟩
  · obtain ⟨honion, hruns⟩ := chains_are_onions [a, twice, b, thrice] failing 7
    obtain ⟨o, -, acts, -, hrun⟩ := hruns hends ⟨(), [], []⟩
    obtain ⟨es, hes, -, honion⟩ := honion acts (some o) hrun
    exact ⟨acts, o, es, hrun, hes, honion.nested, honion.called o rfl⟩
  · obtain ⟨honion, hruns⟩ := chains_are_onions [a, twice, deny, b] failing 7
    obtain ⟨o, -, acts, -, hrun⟩ := hruns hends ⟨(), [], []⟩
    obtain ⟨es, hes, -, honion⟩ := honion acts (some o) hrun
    refine ⟨acts, o, es, hrun, hes, ?_, honion.stopped [a, twice] deny [b] rfl rfl⟩
    exact bracketed_of_account honion.account

end Switchyard
