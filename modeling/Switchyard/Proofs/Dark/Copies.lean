import Switchyard.Http.Message
import Switchyard.Proofs.App.Trace
import Switchyard.Proofs.Dark.Conservation
import Switchyard.Proofs.Dark.Delivery
import Switchyard.Proofs.Filter.Ending
import Switchyard.Proofs.Filter.Stays
import Switchyard.Rpc.Call

/-!
  What a dark traffic filter sends, and when.

  Every time a request reaches the filter the sampler decides anew.  If it accepts the request, the filter
  issues one dark call of a copy: before the stages behind it are run, or once their outcome is there, be it a
  reply or a failure (`Mirroring`).  The copy is made from the request that reaches the filter, which is also
  the one that goes on to the stages behind it: what filters outside change is in it, and what filters inside
  change is not.

  That is said of the filter alone first, with anything behind it, and then of the filter in a chain.  A
  chain may run the filter any number of times for one request, so its run is taken apart into the stays
  behind the filters outside (`Chain.Stays`), and every stay is one application of the filter.

  * `runs_filter_iff` — what the filter does with a request, over or not, between any stages;
  * `own_of_mirroring`, `sent_own` — what the filter itself has done of a request that is over, and what it has
    sent and counted by that (`Sent`): the job that it starts gives the copy to the client (`Call.MadeBy`);
  * `mirrorsAll_of_run`, `ends_mirroring` — the filter anywhere in a chain: what any run of the chain shows of
    it, and that the chain comes to an end if everything but the filter does;
  * `every_request_is_mirrored` — all of this, for HTTP requests and for service calls.
-/

namespace Switchyard

namespace Prog

variable {σ δ α : Type}

/-- The job that an action starts, if it starts one. -/
def Action.job? : Action σ δ → Option δ
  | launched job => some job
  | _ => none

/-- The jobs that actions start, in order. -/
def jobs (acts : List (Action σ δ)) : List δ := acts.filterMap Action.job?

/-- A plain program starts no job and leaves no entry. -/
theorem Plain.nothing_of_run {p : Prog σ δ Empty Empty α} (hp : p.Plain) {acts : List (Action σ δ)} {r : Option α}
    (h : Run p acts r) : jobs acts = [] ∧ entries acts = [] := by
  have hplain := hp.of_run h
  refine ⟨List.filterMap_eq_nil_iff.mpr fun act hact => ?_, List.flatMap_eq_nil_iff.mpr fun act hact => ?_⟩
  · cases act with
    | launched job => cases hplain _ hact
    | changed | noted | lookedBack | waited => rfl
  · cases act with
    | noted o => cases hplain _ hact
    | changed | launched | lookedBack | waited => rfl

end Prog

/-! ## What a stage does of its own -/

section Own

variable {σ Req Rep : Type} {i : Nat}

/-- What a stage does of its own, aside from what the stages inside of it do. -/
def Chain.doneBy (i : Nat) (es : List (Entry σ Req Rep)) : List (Prog.Action σ Job) :=
  es.filterMap fun e => if e.stage = i then e.act? else none

namespace Chain

theorem doneBy_append (es es' : List (Entry σ Req Rep)) :
    doneBy i (es ++ es') = doneBy i es ++ doneBy i es' := List.filterMap_append

theorem doneBy_acts (acts : List (Prog.Action σ Job)) :
    doneBy i (acts.map (.act i) : List (Entry σ Req Rep)) = acts := by
  rw [doneBy, List.filterMap_map]
  refine (List.filterMap_congr fun a _ => ?_).trans List.filterMap_some
  exact if_pos rfl

/-- In what is told of the stages inside a stage does nothing. -/
theorem doneBy_inside {es : List (Entry σ Req Rep)} (h : ∀ e ∈ es, i + 1 ≤ e.stage) : doneBy i es = [] := by
  refine List.filterMap_eq_nil_iff.mpr fun e he => if_neg fun heq => ?_
  have hle := h e he
  omega

theorem doneBy_visit (req : Req) (body : List (Entry σ Req Rep)) (r : Option (Outcome Rep)) :
    doneBy i (.enter i req :: (body ++ Entry.leaving i r)) = doneBy i body := by
  have henter : doneBy i [(.enter i req : Entry σ Req Rep)] = [] := by simp [doneBy, Entry.act?]
  have hleave : doneBy i (Entry.leaving i r : List (Entry σ Req Rep)) = [] := by
    cases r with
    | none => rfl
    | some o => simp [doneBy, Entry.leaving, Entry.act?]
  rw [← List.singleton_append, doneBy_append, doneBy_append, henter, hleave, List.append_nil, List.nil_append]

end Chain

end Own

namespace Dark

variable {σ Req Rep Q A E : Type}

/-! ## The runs of the filter -/

/-- A program that does nothing but ask: the answer is not asked for yet, or not there yet, or it is there, and
    then the program may be told to its end or not. -/
inductive Passing (next : Q → List E → Option A → Prop) (q : Q) : List E → Option A → Prop where
  | before : Passing next q [] none
  | during {es : List E} (h : next q es none) : Passing next q es none
  | answered {es : List E} {a : A} (h : next q es (some a)) : Passing next q es none
  | ended {es : List E} {a : A} (h : next q es (some a)) : Passing next q es (some a)

/-- What a filter does with a request that reaches it, told up to any point.  `next` tells of the stages behind
    the filter, and `copy` is what a dark call is issued with.

    The sampler decides first.  If it rejects the request, nothing else happens than that the request goes on.
    If it accepts the request, a dark call is issued before the request goes on; or the request goes on first,
    and the dark call is issued once the outcome is there. -/
inductive Mirroring (s : Settings σ Req) (copy : Req)
    (next : Req → List E → Option (Outcome Rep) → Prop) (entry : Prog.Action σ Job → E) (q : Req) :
    List E → Option (Outcome Rep) → Prop where
  | undecided {draw : List (Prog.Action σ Job)} (hdraw : Prog.Run (s.sampler.accepts q) draw none) :
      Mirroring s copy next entry q (draw.map entry) none
  | rejected {draw : List (Prog.Action σ Job)} {inner : List E} {r : Option (Outcome Rep)}
      (hdraw : Prog.Run (s.sampler.accepts q) draw (some false)) (hinner : Passing next q inner r) :
      Mirroring s copy next entry q (draw.map entry ++ inner) r
  /-- The dark call is being issued, and then the request will go on. -/
  | issuingFirst {draw begun : List (Prog.Action σ Job)} (hmode : s.afterService = false)
      (hdraw : Prog.Run (s.sampler.accepts q) draw (some true)) (hbegun : begun <+: s.issuing copy) :
      Mirroring s copy next entry q (draw.map entry ++ begun.map entry) none
  /-- The dark call is issued, and the request has gone on. -/
  | issuedFirst {draw : List (Prog.Action σ Job)} {inner : List E} {r : Option (Outcome Rep)}
      (hmode : s.afterService = false) (hdraw : Prog.Run (s.sampler.accepts q) draw (some true))
      (hinner : Passing next q inner r) :
      Mirroring s copy next entry q (draw.map entry ++ ((s.issuing copy).map entry ++ inner)) r
  /-- The request has gone on, and the dark call waits for the outcome. -/
  | waiting {draw : List (Prog.Action σ Job)} {inner : List E} (hmode : s.afterService = true)
      (hdraw : Prog.Run (s.sampler.accepts q) draw (some true)) (hinner : Passing next q inner none) :
      Mirroring s copy next entry q (draw.map entry ++ inner) none
  /-- The outcome is there, and the dark call is being issued. -/
  | issuingLast {draw begun : List (Prog.Action σ Job)} {inner : List E} {o : Outcome Rep}
      (hmode : s.afterService = true) (hdraw : Prog.Run (s.sampler.accepts q) draw (some true))
      (hinner : next q inner (some o)) (hbegun : begun <+: s.issuing copy) :
      Mirroring s copy next entry q (draw.map entry ++ (inner ++ begun.map entry)) none
  /-- The dark call is issued after the outcome, with which the filter ends. -/
  | issuedLast {draw : List (Prog.Action σ Job)} {inner : List E} {o : Outcome Rep}
      (hmode : s.afterService = true) (hdraw : Prog.Run (s.sampler.accepts q) draw (some true))
      (hinner : next q inner (some o)) :
      Mirroring s copy next entry q (draw.map entry ++ (inner ++ (s.issuing copy).map entry)) (some o)

section Runs

variable {next : Q → List E → Option A → Prop} {entry : Prog.Action σ Job → E} {es : List E}

theorem runs_call_iff {q : Q} {r : Option A} :
    Prog.Runs next entry (Prog.call q : Flow σ Q A A) es r ↔ Passing next q es r := by
  constructor
  · intro h
    cases h with
    | stop => exact .before
    | asked hq => exact .during hq
    | answered a hq hdone =>
      obtain ⟨rfl, rfl | rfl⟩ := Prog.runs_done_iff.mp hdone
      · rw [List.append_nil]
        exact .answered hq
      · rw [List.append_nil]
        exact .ended hq
  · intro h
    cases h with
    | before => exact .stop _
    | during hq => exact .asked hq
    | answered hq =>
      rw [← List.append_nil es]
      exact .answered _ hq (.stop _)
    | ended hq =>
      rw [← List.append_nil es]
      exact .answered _ hq (.done _)

/-- The sampler asks nothing, so its runs are the same wherever it stands. -/
theorem runs_accepts_iff {sampler : Sampler σ Req} {req : Req} {sampled? : Option Bool} :
    Prog.Runs next entry (sampler.accepts req : Flow σ Q A Bool) es sampled? ↔
      ∃ draw, Prog.Run (sampler.accepts req) draw sampled? ∧ es = draw.map entry := by
  cases sampler with
  | «when» accept =>
    constructor
    · intro h
      obtain ⟨rfl, hsampled⟩ := Prog.runs_done_iff.mp h
      exact ⟨[], Prog.runs_done_iff.mpr ⟨rfl, hsampled⟩, rfl⟩
    · rintro ⟨draw, hdraw, rfl⟩
      obtain ⟨rfl, hsampled⟩ := Prog.runs_done_iff.mp hdraw
      exact Prog.runs_done_iff.mpr ⟨rfl, hsampled⟩
  | drawn accept =>
    constructor
    · intro h
      cases h with
      | stop => exact ⟨[], .stop _, rfl⟩
      | step s h =>
        obtain ⟨rfl, hsampled⟩ := Prog.runs_done_iff.mp h
        exact ⟨[.changed s (accept s).2], .step s (Prog.runs_done_iff.mpr ⟨rfl, hsampled⟩), rfl⟩
    · rintro ⟨draw, hdraw, rfl⟩
      cases hdraw with
      | stop => exact .stop _
      | step s h =>
        obtain ⟨rfl, hsampled⟩ := Prog.runs_done_iff.mp h
        exact .step s (Prog.runs_done_iff.mpr ⟨rfl, hsampled⟩)

/-- A dark call is being issued, or it is issued and the program goes on. -/
theorem runs_issue_iff {s : Settings σ Req} {copy : Req} {α : Type} {p : Flow σ Q A α} {r : Option α} :
    Prog.Runs next entry ((s.issue copy).bind fun _ => p) es r ↔
      (r = none ∧ ∃ begun, begun <+: s.issuing copy ∧ es = begun.map entry) ∨
        ∃ later, es = (s.issuing copy).map entry ++ later ∧ Prog.Runs next entry p later r := by
  constructor
  · intro h
    cases h with
    | stop => exact Or.inl ⟨rfl, [], List.nil_prefix, rfl⟩
    | note h =>
    cases h with
    | stop => exact Or.inl ⟨rfl, _, ⟨_, rfl⟩, (List.map_singleton ..).symm⟩
    | note h =>
    cases h with
    | stop =>
      refine Or.inl ⟨rfl, [.noted (.darkIssued s.id), .noted (.metric .darkIssued)], ⟨_, rfl⟩, rfl⟩
    | launch h => exact Or.inr ⟨_, rfl, h⟩
  · rintro (⟨rfl, begun, hbegun, rfl⟩ | ⟨later, rfl, h⟩)
    · -- issuing is three actions, and it may be told up to any of them
      rcases List.prefix_cons_iff.mp hbegun with rfl | ⟨second, rfl, hsecond⟩
      · exact .stop _
      rcases List.prefix_cons_iff.mp hsecond with rfl | ⟨third, rfl, hthird⟩
      · exact .note (.stop _)
      rcases List.prefix_cons_iff.mp hthird with rfl | ⟨rest, rfl, hrest⟩
      · exact .note (.note (.stop _))
      obtain rfl := List.prefix_nil.mp hrest
      exact .note (.note (.launch (.stop _)))
    · exact .note (.note (.launch h))

/-- **What the filter does with a request**, over or not, wherever it stands: nothing else than `Mirroring`
    says, and all of it. -/
theorem runs_filter_iff {s : Settings σ Req} {copy : Req → Req}
    {next : Req → List E → Option (Outcome Rep) → Prop} {q : Req} {r : Option (Outcome Rep)} :
    Prog.Runs next entry (s.filter copy q) es r ↔ Mirroring s (copy q) next entry q es r := by
  rw [Settings.filter]
  constructor
  · intro h
    rcases Prog.runs_bind_iff.mp h with ⟨rfl, hsampler⟩ | ⟨sampled, drawn, rest, hsampler, hrest, rfl⟩
    · obtain ⟨draw, hdraw, rfl⟩ := runs_accepts_iff.mp hsampler
      exact .undecided hdraw
    obtain ⟨draw, hdraw, rfl⟩ := runs_accepts_iff.mp hsampler
    cases sampled with
    | false => exact .rejected hdraw (runs_call_iff.mp hrest)
    | true =>
      rw [if_pos rfl] at hrest
      cases hmode : s.afterService with
      | false =>
        rw [hmode, if_neg Bool.false_ne_true] at hrest
        rcases runs_issue_iff.mp hrest with ⟨rfl, begun, hbegun, rfl⟩ | ⟨later, rfl, hlater⟩
        · exact .issuingFirst hmode hdraw hbegun
        · exact .issuedFirst hmode hdraw (runs_call_iff.mp hlater)
      | true =>
        rw [hmode, if_pos rfl] at hrest
        rcases Prog.runs_bind_iff.mp hrest with ⟨rfl, hcall⟩ | ⟨o, inner, last, hcall, hlast, rfl⟩
        · exact .waiting hmode hdraw (runs_call_iff.mp hcall)
        cases runs_call_iff.mp hcall with
        | ended hinner =>
          rcases runs_issue_iff.mp hlast with ⟨rfl, begun, hbegun, rfl⟩ | ⟨later, rfl, hlater⟩
          · exact .issuingLast hmode hdraw hinner hbegun
          · obtain ⟨rfl, rfl | rfl⟩ := Prog.runs_done_iff.mp hlater
            · rw [List.append_nil]
              exact .issuingLast hmode hdraw hinner List.prefix_rfl
            · rw [List.append_nil]
              exact .issuedLast hmode hdraw hinner
  · intro h
    cases h with
    | undecided hdraw => exact (runs_accepts_iff.mpr ⟨_, hdraw, rfl⟩).bind_none _
    | rejected hdraw hinner =>
      exact (runs_accepts_iff.mpr ⟨_, hdraw, rfl⟩).bind (runs_call_iff.mpr hinner)
    | issuingFirst hmode hdraw hbegun =>
      refine (runs_accepts_iff.mpr ⟨_, hdraw, rfl⟩).bind ?_
      rw [if_pos rfl, hmode, if_neg Bool.false_ne_true]
      exact runs_issue_iff.mpr (Or.inl ⟨rfl, _, hbegun, rfl⟩)
    | issuedFirst hmode hdraw hinner =>
      refine (runs_accepts_iff.mpr ⟨_, hdraw, rfl⟩).bind ?_
      rw [if_pos rfl, hmode, if_neg Bool.false_ne_true]
      exact runs_issue_iff.mpr (Or.inr ⟨_, rfl, runs_call_iff.mpr hinner⟩)
    | waiting hmode hdraw hinner =>
      refine (runs_accepts_iff.mpr ⟨_, hdraw, rfl⟩).bind ?_
      rw [if_pos rfl, hmode, if_pos rfl]
      exact (runs_call_iff.mpr hinner).bind_none _
    | issuingLast hmode hdraw hinner hbegun =>
      refine (runs_accepts_iff.mpr ⟨_, hdraw, rfl⟩).bind ?_
      rw [if_pos rfl, hmode, if_pos rfl]
      exact (runs_call_iff.mpr (.ended hinner)).bind (runs_issue_iff.mpr (Or.inl ⟨rfl, _, hbegun, rfl⟩))
    | issuedLast hmode hdraw hinner =>
      refine (runs_accepts_iff.mpr ⟨_, hdraw, rfl⟩).bind ?_
      rw [if_pos rfl, hmode, if_pos rfl]
      refine (runs_call_iff.mpr (.ended hinner)).bind (runs_issue_iff.mpr (Or.inr ⟨[], ?_, .done _⟩))
      exact (List.append_nil _).symm

end Runs

/-! ## What is sent and counted -/

/-- What actions send and count for a filter: one dark call of a copy if the request was sampled, and nothing
    if it was not.  The counters are those of any filter, after any record. -/
structure Sent (s : Settings σ Req) (sampled : Bool) (copy : Req) (acts : List (Prog.Action σ Job)) :
    Prop where
  jobs : Prog.jobs acts = if sampled then [⟨s.id, s.dark copy⟩] else []
  /-- The job gives the copy to the client of the filter, within its time. -/
  calls : ∀ job ∈ Prog.jobs acts, Call.MadeBy ⟨s, copy⟩ job
  counters : ∀ filter past, Counts.ofRecord filter (past ++ Prog.entries acts) =
    let counts := Counts.ofRecord filter past
    if sampled ∧ s.id = filter then { counts with requests := counts.requests + 1 } else counts

/-- What the filter does of its own: deciding sends nothing and counts nothing, and issuing a dark call does. -/
theorem sent_own {s : Settings σ Req} {q : Req} {draw : List (Prog.Action σ Job)} {sampled : Bool}
    (hdraw : Prog.Run (s.sampler.accepts q) draw (some sampled)) (copy : Req) :
    Sent s sampled copy (draw ++ if sampled then s.issuing copy else []) := by
  obtain ⟨hnone, hentries⟩ := (s.sampler.plain_accepts q).nothing_of_run hdraw
  have hjobs : Prog.jobs (draw ++ if sampled then s.issuing copy else [])
      = if sampled then [⟨s.id, s.dark copy⟩] else [] := by
    rw [Prog.jobs, List.filterMap_append, ← Prog.jobs, hnone, List.nil_append]
    cases sampled with
    | false => rfl
    | true => rfl
  refine ⟨hjobs, fun job hjob => ?_, fun filter past => ?_⟩
  · rw [hjobs] at hjob
    cases sampled with
    | false => cases hjob
    | true =>
      obtain rfl := List.mem_singleton.mp hjob
      exact Call.madeBy_dark ⟨s, copy⟩
  · rw [Prog.entries, List.flatMap_append, ← Prog.entries, hentries, List.nil_append, Counts.ofRecord,
      List.foldl_append]
    cases sampled with
    | false => rfl
    | true => simp [Settings.issuing, Prog.Action.entries, Counts.push, Counts.ofRecord]

/-- Of its own a filter that a request went through has decided, and issued a dark call or not. -/
theorem own_of_mirroring {s : Settings σ Req} {copy : Req} {k : Nat}
    {next : Req → List (Entry σ Req Rep) → Option (Outcome Rep) → Prop}
    (hnext : ∀ {q es r}, next q es r → ∀ e ∈ es, k + 1 ≤ e.stage) {q : Req} {body : List (Entry σ Req Rep)}
    {o : Outcome Rep} (h : Mirroring s copy next (.act k) q body (some o)) :
    ∃ sampled draw, Prog.Run (s.sampler.accepts q) draw (some sampled) ∧
      Chain.doneBy k body = draw ++ if sampled then s.issuing copy else [] := by
  cases h with
  | @rejected draw inner r hdraw hinner =>
    cases hinner with
    | ended hinner =>
      refine ⟨false, draw, hdraw, ?_⟩
      rw [Chain.doneBy_append, Chain.doneBy_acts, Chain.doneBy_inside (hnext hinner)]
      rfl
  | @issuedFirst draw inner r hmode hdraw hinner =>
    cases hinner with
    | ended hinner =>
      refine ⟨true, draw, hdraw, ?_⟩
      rw [Chain.doneBy_append, Chain.doneBy_append, Chain.doneBy_acts, Chain.doneBy_acts,
        Chain.doneBy_inside (hnext hinner), List.append_nil]
      rfl
  | @issuedLast draw inner o hmode hdraw hinner =>
    refine ⟨true, draw, hdraw, ?_⟩
    rw [Chain.doneBy_append, Chain.doneBy_append, Chain.doneBy_acts, Chain.doneBy_acts,
      Chain.doneBy_inside (hnext hinner), List.nil_append]
    rfl

/-! ## The filter in a chain -/

/-- What is told of a request that reaches the filter at a stage, with `inner` behind it: the filter mirrors
    it with a copy of it, and if it is over, the dark call was sent or not, as the sampler decided. -/
def Mirrored (IsCopy : Req → Req → Prop) (s : Settings σ Req) (terminal : Handler σ Req Rep)
    (inner : Chain σ Req Rep) (k : Nat) (stay : Stay σ Req Rep) : Prop :=
  ∃ copy body, IsCopy stay.req copy ∧ stay.entries = .enter k stay.req :: (body ++ Entry.leaving k stay.outcome?) ∧
    Mirroring s copy (Chain.Account terminal inner (k + 1)) (.act k) stay.req body stay.outcome? ∧
    ∀ o, stay.outcome? = some o → ∃ sampled draw, Prog.Run (s.sampler.accepts stay.req) draw (some sampled) ∧
      Sent s sampled copy (Chain.doneBy k stay.entries)

/-- In a run of a chain, the filter that stands between `outer` and `inner` mirrors every request that reaches
    it: once for every time that the filters outside run it.  If the run is over, so are all of these. -/
def MirrorsAll (IsCopy : Req → Req → Prop) (s : Settings σ Req) (filter : Filter σ Req Rep)
    (outer inner : Chain σ Req Rep) (terminal : Handler σ Req Rep) (req : Req)
    (acts : List (Prog.Action σ Job)) (r : Option (Outcome Rep)) : Prop :=
  ∃ es stays, Chain.Account terminal (outer ++ filter :: inner) 0 req es r ∧ acts = es.filterMap Entry.act? ∧
    Chain.Stays terminal (filter :: inner) outer.length stays es ∧
    (∀ stay ∈ stays, Mirrored IsCopy s terminal inner outer.length stay) ∧
    ∀ o, r = some o → Chain.AllOver stays

section Chains

variable {IsCopy : Req → Req → Prop} {s : Settings σ Req} {copy : Req → Req} {outer inner : Chain σ Req Rep}
  {terminal : Handler σ Req Rep}

theorem mirrorsAll_of_run (hcopy : ∀ q, IsCopy q (copy q)) {req : Req} {acts : List (Prog.Action σ Job)}
    {r : Option (Outcome Rep)}
    (h : Prog.Run ((outer ++ s.filter copy :: inner).compose terminal req) acts r) :
    MirrorsAll IsCopy s (s.filter copy) outer inner terminal req acts r := by
  obtain ⟨es, haccount, rfl⟩ := (Chain.run_compose_iff terminal _ 0 req acts r).mp h
  obtain ⟨stays, hstays, hover⟩ := Chain.exists_stays haccount
  rw [Nat.zero_add] at hstays
  refine ⟨es, stays, haccount, rfl, hstays, fun stay hstay => ?_, fun o ho => (hover o ho).1⟩
  obtain ⟨body, hbody, htold⟩ := hstays.accounts stay hstay
  have hmirroring := runs_filter_iff.mp hbody
  refine ⟨copy stay.req, body, hcopy stay.req, htold, hmirroring, fun o ho => ?_⟩
  rw [ho] at hmirroring
  obtain ⟨sampled, draw, hdraw, hown⟩ :=
    own_of_mirroring (fun hnext e he => Chain.le_stage hnext he) hmirroring
  refine ⟨sampled, draw, hdraw, ?_⟩
  rw [htold, Chain.doneBy_visit, hown]
  exact sent_own hdraw _

/-- The filter waits for nothing but the stages behind it, so a chain ends if all of its other stages do. -/
theorem ends_mirroring (houter : outer.Ends) (hinner : inner.Ends) (hterminal : ∀ q, (terminal q).Ends)
    (req : Req) : ((outer ++ s.filter copy :: inner).compose terminal req).Ends := by
  have hfilter : ∀ q, (s.filter copy q : Flow σ Req (Outcome Rep) (Outcome Rep)).Ends := by
    intro q
    have htame : (s.filter copy q : Flow σ Req (Outcome Rep) (Outcome Rep)).Tame fun _ => True :=
      s.tame_filter (fun _ => trivial) q
    exact htame.ends
  exact Chain.ends_compose (houter.append (List.forall_mem_cons.mpr ⟨hfilter, hinner⟩)) hterminal req

end Chains

/-- What is said of a dark traffic filter: of the filter alone, and wherever it stands in a chain. -/
structure Mirrors (Rep : Type) (IsCopy : Req → Req → Prop) (s : Settings σ Req) (copy : Req → Req) : Prop where
  /-- Between any stages, whatever can be told of a request that reaches the filter is as `Mirroring` says, and
      all that `Mirroring` says can be told. -/
  filter {E : Type} {next : Req → List E → Option (Outcome Rep) → Prop} {entry : Prog.Action σ Job → E} {q : Req}
    {es : List E} {r : Option (Outcome Rep)} :
    Prog.Runs next entry (s.filter copy q) es r ↔ Mirroring s (copy q) next entry q es r
  /-- A run of a chain, over or not, mirrors every request that reaches the filter. -/
  runs {outer inner : Chain σ Req Rep} {terminal : Handler σ Req Rep} {req : Req}
    {acts : List (Prog.Action σ Job)} {r : Option (Outcome Rep)} :
    Prog.Run ((outer ++ s.filter copy :: inner).compose terminal req) acts r →
      MirrorsAll IsCopy s (s.filter copy) outer inner terminal req acts r
  /-- If all the other stages come to an end, then on any machine a request comes to an outcome, and it does so
      by such a run. -/
  ends {outer inner : Chain σ Req Rep} {terminal : Handler σ Req Rep} :
    outer.Ends → inner.Ends → (∀ q, (terminal q).Ends) → ∀ req (m : Machine σ), ∃ o m' acts,
      Machine.run ((outer ++ s.filter copy :: inner).compose terminal req) m = (some o, m') ∧
      Prog.Run ((outer ++ s.filter copy :: inner).compose terminal req) acts (some o) ∧
      MirrorsAll IsCopy s (s.filter copy) outer inner terminal req acts (some o)

theorem mirrors_filter {IsCopy : Req → Req → Prop} {copy : Req → Req} (hcopy : ∀ q, IsCopy q (copy q))
    (s : Settings σ Req) : Mirrors Rep IsCopy s copy where
  filter := runs_filter_iff
  runs h := mirrorsAll_of_run hcopy h
  ends houter hinner hterminal req m := by
    obtain ⟨o, m', acts, hmachine, hrun⟩ :=
      Machine.exists_run_of_ends (ends_mirroring houter hinner hterminal req) m
    exact ⟨o, m', acts, hmachine, hrun, mirrorsAll_of_run hcopy hrun⟩

/-- A copy of a request for a second destination: all that goes over the wire is as in the request, and what
    the match of a route left with the request is not there. -/
structure WireCopy (req copy : Http.Request) : Prop where
  method : copy.method = req.method
  target : copy.target = req.target
  version : copy.version = req.version
  headers : ∀ name, copy.headers.getAll name = req.headers.getAll name
  body : copy.body = req.body
  params : copy.params? = none
  route : copy.route? = none

/-- **Every request that reaches a dark traffic filter is mirrored**, whatever stands outside and inside of the
    filter.

    A run of the chain, told up to any point, is made of single applications of the filter, each to the request
    that reaches it.  In each of them the sampler decides.  If it rejects the request, the filter sends and
    counts nothing.  If it accepts it, the filter issues one dark call, and its counter of requests goes up by
    one: before the request goes on, or once the outcome of the stages inside is there, whatever it is, and not
    at all if it never is.  The request goes on as it came.  The dark call gives the client a copy of the request
    as it came: of all that goes over the wire, or of the whole call.  And the filter never keeps a request from
    coming to its outcome. -/
theorem every_request_is_mirrored {σ : Type} :
    (∀ s : Settings σ Http.Request, Mirrors Http.Response WireCopy s Http.Request.darkCopy) ∧
    ∀ s : Settings σ Rpc.Call, Mirrors Rpc.Reply Eq s Rpc.Call.darkCopy := by
  have hwire : ∀ q : Http.Request, WireCopy q q.darkCopy := fun q => ⟨rfl, rfl, rfl, fun _ => rfl, rfl, rfl, rfl⟩
  exact ⟨fun s => mirrors_filter hwire s, fun s => mirrors_filter (fun _ => rfl) s⟩

/-- A filter that runs the rest of the path twice, with another method the second time, outside of a dark
    traffic filter, and a callback that fails. -/
theorem every_request_is_mirrored_twice :
    let s : Settings Unit Http.Request := { id := 3, client := ⟨fun _ => .wait 20 (.done (.ok ()))⟩ }
    let again : Http.Filter Unit := fun req => (Prog.call req).bind fun _ => Prog.call { req with method := "PUT" }
    let callback : Http.Handler Unit := fun _ => .done (.error (.ofMessage "down"))
    let req : Http.Request := {}
    let acts := s.issuing req ++ s.issuing { req with method := "PUT" }
    let outcome : Outcome Http.Response := .error (.ofMessage "down")
    Prog.Run (Chain.compose [again, s.filter Http.Request.darkCopy] callback req) acts (some outcome) ∧
      MirrorsAll WireCopy s (s.filter Http.Request.darkCopy) [again] [] callback req acts (some outcome) ∧
      ∃ o m' acts', Machine.run (Chain.compose [again, s.filter Http.Request.darkCopy] callback req)
          ⟨(), [], []⟩ = (some o, m') ∧
        MirrorsAll WireCopy s (s.filter Http.Request.darkCopy) [again] [] callback req acts' (some o) := by
  intro s again callback req acts outcome
  have hrun : Prog.Run (Chain.compose [again, s.filter Http.Request.darkCopy] callback req) acts (some outcome) :=
    .note (.note (.launch (.note (.note (.launch (.done _))))))
  have hagain : Chain.Ends [again] := List.forall_mem_singleton.mpr fun _ _ _ => trivial
  have hnone : Chain.Ends ([] : Chain Unit Http.Request Http.Response) := List.forall_mem_nil _
  have hcallback : ∀ q, (callback q).Ends := fun _ => trivial
  have hmirrors := every_request_is_mirrored.1 s
  have hall : MirrorsAll WireCopy s (s.filter Http.Request.darkCopy) [again] [] callback req acts
      (some outcome) := hmirrors.runs hrun
  obtain ⟨o, m', acts', hmachine, -, hall'⟩ := hmirrors.ends hagain hnone hcallback req ⟨(), [], []⟩
  exact ⟨hrun, hall, o, m', acts', hmachine, hall'⟩

end Dark
end Switchyard
