import Mathlib.Algebra.BigOperators.Group.List.Basic
import Mathlib.Data.List.Nodup
import Switchyard.Dark.Counts
import Switchyard.Proofs.Dark.Schedule
import Switchyard.Proofs.Observe.Totals

/-!
  Dark calls are conserved.

  What is conserved are calls: each is issued once and ends at most once, and both the counters of filters and
  the series of metrics keep count of that.  The argument has three parts.

  1. **Counters count entries.**  The counters of a filter, and the totals of the series, are moved by entries of
     the record, and by nothing else (`Counts.requests_eq_count`, `Counts.ended_eq_count`, `total_series`).

  2. **Entries belong to calls.**  The entries of the record that keep count are those of the calls
     (`Traffic.Kept`), and each call leaves the same entry once at most (`Tracked.nodup_entries`).  So the number of
     such entries is the number of calls that have left them (`Kept.count_record`).

  3. **Calls add up.**  A call that was issued has ended or is under way, so the counters of a filter balance
     (`Kept.balanced`), and the totals of the series of dark calls are the sums over all filters
     (`Kept.total_darkIssued`, `Kept.total_darkFinished`).  A single move counts a call that it issues or ends,
     and nothing else (`Kept.counting`).

  The main statement is `dark_calls_are_conserved`: all this after any interleaving of any calls.
-/

namespace Switchyard

/-! ## The series of dark calls -/

/-- The series that keep count of dark calls. -/
def Metric.dark : List Metric :=
  [.darkIssued, .darkFinished .success, .darkFinished .failure, .darkFinished .timeout]

namespace Metric

/-- The metrics of dark traffic are the four that tell of an issue or an end. -/
theorem isDark_iff {m : Metric} : (Observation.metric m).isDark = true ↔ m ∈ dark := by
  cases m with
  | darkIssued => decide
  | darkFinished outcome => cases outcome <;> decide
  | _ => exact iff_of_false Bool.false_ne_true (by simp [dark])

/-- How a series begins tells whether it keeps count of dark calls. -/
theorem head_series (m : Metric) :
    m.series.toList.head? = some (if (Observation.metric m).isDark then 'd' else 'r') := by
  cases m with
  | darkFinished outcome => cases outcome <;> simp [series, name, Observation.isDark]
  | _ => simp [series, name, Observation.isDark]

/-- **A series of dark calls has its entries to itself.** -/
theorem series_eq_iff {m : Metric} (hm : m ∈ dark) {m' : Metric} : m'.series = m.series ↔ m' = m := by
  refine ⟨fun heq => ?_, congrArg series⟩
  have hm' : m' ∈ dark := by
    have hhead := head_series m'
    rw [heq, head_series m, isDark_iff.mpr hm] at hhead
    by_contra hnot
    rw [if_neg (isDark_iff.not.mpr hnot)] at hhead
    nomatch hhead
  have hdistinct : ∀ m ∈ dark, ∀ m' ∈ dark, m'.series = m.series → m' = m := by decide
  exact hdistinct m hm m' hm' heq

/-- The total of a series of dark calls is the number of its entries. -/
theorem total_series {m : Metric} (hm : m ∈ dark) (record : List Observation) :
    Observation.total m.series (Observation.totals record) = record.count (.metric m) := by
  have hcount : (Observation.metrics record).countP (·.series = m.series) =
      (Observation.metrics record).count m :=
    List.countP_congr fun m' _ => by rw [decide_eq_true_eq, series_eq_iff hm, beq_iff_eq]
  rw [Observation.total_eq_countP, hcount, Observation.metrics, List.count_filterMap, List.count]
  refine List.countP_congr fun o _ => ?_
  cases o <;> simp

end Metric

namespace Dark

/-! ## The counters of a filter -/

namespace Counts

/-- The counter of an outcome. -/
def ended (c : Counts) : DarkOutcome → UInt64
  | .success => c.successes
  | .failure => c.failures
  | .timeout => c.timeouts

variable {f : DarkId} {record : List Observation}

/-- The counters only look at the entries that keep count. -/
theorem ofRecord_append (os : List Observation) :
    ofRecord f (record ++ os) = (os.filter Observation.isDark).foldl (push f) (ofRecord f record) := by
  rw [ofRecord, ofRecord, List.foldl_append, List.foldl_filter]
  refine congrArg (fun g => List.foldl g _ os) (funext fun c => funext fun o => ?_)
  cases ho : o.isDark with
  | true => rfl
  | false =>
    cases o with
    | darkIssued f' => nomatch ho
    | darkFinished f' outcome => nomatch ho
    | _ => rfl

/-- An entry moves the counter of requests of its own filter by one, if it tells of an issue. -/
theorem requests_push (c : Counts) (o : Observation) :
    (push f c o).requests = c.requests + if o = .darkIssued f then 1 else 0 := by
  cases o with
  | darkIssued f' =>
    by_cases hf : f' = f
    · simp [push, hf]
    · simp [push, hf]
  | darkFinished f' outcome =>
    by_cases hf : f' = f
    · cases outcome <;> simp [push, hf]
    · simp [push, hf]
  | _ => simp [push]

/-- And the counter of an outcome, if it tells of a call that came to it. -/
theorem ended_push (c : Counts) (outcome : DarkOutcome) (o : Observation) :
    (push f c o).ended outcome = c.ended outcome + if o = .darkFinished f outcome then 1 else 0 := by
  cases o with
  | darkIssued f' =>
    by_cases hf : f' = f
    · cases outcome <;> simp [push, hf, ended]
    · simp [push, hf]
  | darkFinished f' outcome' =>
    by_cases hf : f' = f
    · cases outcome <;> cases outcome' <;> simp [push, hf, ended]
    · simp [push, hf]
  | _ => simp [push]

/-- A counter that goes up by one with an entry counts this entry in the record. -/
theorem counter_eq_count {counter : Counts → UInt64} {entry : Observation} (hzero : counter {} = 0)
    (hpush : ∀ c o, counter (push f c o) = counter c + if o = entry then 1 else 0) :
    counter (ofRecord f record) = .ofNat (record.count entry) := by
  induction record using List.reverseRecOn with
  | nil => exact hzero
  | append_singleton record o ih =>
    rw [ofRecord, List.foldl_append, List.foldl_cons, List.foldl_nil, ← ofRecord, hpush, ih,
      List.count_append, List.count_singleton, UInt64.ofNat_add]
    by_cases ho : o = entry
    · rw [if_pos ho, if_pos (beq_iff_eq.mpr ho)]
      rfl
    · rw [if_neg ho, if_neg (mt beq_iff_eq.mp ho)]
      rfl

/-- The counter of requests has what the record tells of issues. -/
theorem requests_eq_count : (ofRecord f record).requests = .ofNat (record.count (.darkIssued f)) :=
  counter_eq_count rfl requests_push

/-- And the counter of an outcome has what it tells of calls that came to it. -/
theorem ended_eq_count (outcome : DarkOutcome) :
    (ofRecord f record).ended outcome = .ofNat (record.count (.darkFinished f outcome)) := by
  have hzero : ended {} outcome = 0 := by cases outcome <;> rfl
  exact @counter_eq_count f record (fun c => c.ended outcome) _ hzero fun c o => ended_push c outcome o

end Counts

/-! ## The entries of calls -/

namespace Tracked

/-- No call leaves the same entry twice. -/
theorem nodup_entries (m : Tracked) : m.entries.Nodup := by
  cases h : m.outcome? with
  | none => simp [entries, h, Call.beginning]
  | some outcome => simp [entries, h, Call.beginning, counted]

/-- A call tells of its issue to the filter that issued it. -/
theorem darkIssued_mem_entries {m : Tracked} {f : DarkId} :
    .darkIssued f ∈ m.entries ↔ m.call.filter = f := by
  cases h : m.outcome? with
  | none => simp [entries, h, Call.beginning, eq_comm]
  | some outcome => simp [entries, h, Call.beginning, counted, eq_comm]

theorem metric_darkIssued_mem_entries (m : Tracked) : .metric .darkIssued ∈ m.entries := by
  simp [entries, Call.beginning]

/-- It tells its filter of an outcome if it came to that. -/
theorem darkFinished_mem_entries {m : Tracked} {f : DarkId} {outcome : DarkOutcome} :
    .darkFinished f outcome ∈ m.entries ↔ m.call.filter = f ∧ m.outcome? = some outcome := by
  cases h : m.outcome? with
  | none => simp [entries, h, Call.beginning]
  | some outcome' => simp [entries, h, Call.beginning, counted, eq_comm]

/-- And so it does the metrics of all filters together. -/
theorem metric_darkFinished_mem_entries {m : Tracked} {outcome : DarkOutcome} :
    .metric (.darkFinished outcome) ∈ m.entries ↔ m.outcome? = some outcome := by
  cases h : m.outcome? with
  | none => simp [entries, h, Call.beginning]
  | some outcome' => simp [entries, h, Call.beginning, counted, eq_comm]

/-- How often an entry is there is how many calls leave it. -/
theorem count_flatMap_entries (calls : List Tracked) (o : Observation) :
    (calls.flatMap entries).count o = calls.countP fun m => o ∈ m.entries := by
  induction calls with
  | nil => rfl
  | cons m calls ih =>
    rw [List.flatMap_cons, List.count_append, ih, (nodup_entries m).count, List.countP_cons, Nat.add_comm]
    simp only [decide_eq_true_eq]

end Tracked

namespace Traffic

variable {filters : List DarkId} {t : Traffic}

/-- The calls that a filter issued. -/
def issuedBy (t : Traffic) (f : DarkId) : Nat := t.calls.countP fun m => m.call.filter = f

/-- The calls of a filter that came to an outcome. -/
def endedBy (t : Traffic) (f : DarkId) (outcome : DarkOutcome) : Nat :=
  t.calls.countP fun m => m.call.filter = f ∧ m.outcome? = some outcome

/-- The calls of a filter that are under way. -/
def liveOf (t : Traffic) (f : DarkId) : Nat :=
  t.calls.countP fun m => m.call.filter = f ∧ m.outcome? = none

/-- **A call that was issued is under way or came to one outcome.** -/
theorem issuedBy_eq (t : Traffic) (f : DarkId) :
    t.issuedBy f =
      t.endedBy f .success + t.endedBy f .failure + t.endedBy f .timeout + t.liveOf f := by
  rw [issuedBy, endedBy, endedBy, endedBy, liveOf]
  induction t.calls with
  | nil => rfl
  | cons m calls ih =>
    simp only [List.countP_cons, ih]
    by_cases hf : m.call.filter = f
    · cases h : m.outcome? with
      | none => simp [hf]; omega
      | some outcome => cases outcome <;> simp [hf] <;> omega
    · simp [hf]

/-- **The record tells of dark traffic what the calls left**, whatever else there is in it. -/
theorem Kept.count_record (h : t.Kept filters) {o : Observation} (ho : o.isDark = true) :
    t.record.count o = t.calls.countP fun m => o ∈ m.entries := by
  calc t.record.count o
      = (t.record.filter Observation.isDark).count o := (List.count_filter ho).symm
    _ = (t.calls.flatMap Tracked.entries).count o := h.entries.count_eq o
    _ = t.calls.countP fun m => o ∈ m.entries := Tracked.count_flatMap_entries t.calls o

/-- An issue is told of once for each call that a filter issued. -/
theorem Kept.count_darkIssued (h : t.Kept filters) (f : DarkId) :
    t.record.count (.darkIssued f) = t.issuedBy f := by
  rw [h.count_record rfl, issuedBy]
  simp only [Tracked.darkIssued_mem_entries]

/-- And an outcome is told of once for each call that came to it. -/
theorem Kept.count_darkFinished (h : t.Kept filters) (f : DarkId) (outcome : DarkOutcome) :
    t.record.count (.darkFinished f outcome) = t.endedBy f outcome := by
  rw [h.count_record rfl, endedBy]
  simp only [Tracked.darkFinished_mem_entries]

/-! ## The counters of a filter and its calls -/

/-- The counters of a filter say what its calls came to. -/
structure Balanced (t : Traffic) (f : DarkId) (c : Counts) : Prop where
  /-- The counter of requests counts the calls that were issued. -/
  issued : c.requests.toNat = t.issuedBy f
  /-- The counter of an outcome counts the calls that came to it. -/
  ended (outcome : DarkOutcome) : (c.ended outcome).toNat = t.endedBy f outcome
  /-- The calls that were issued are those that ended and those under way. -/
  balance : c.requests.toNat =
    c.successes.toNat + c.failures.toNat + c.timeouts.toNat + t.liveOf f
  /-- The sum of the ended calls does not overflow. -/
  sum : (c.successes + c.failures + c.timeouts).toNat =
    c.successes.toNat + c.failures.toNat + c.timeouts.toNat
  /-- What is taken off the issued calls is not more than they are. -/
  ended_le : c.successes + c.failures + c.timeouts ≤ c.requests
  /-- The calls in flight are those under way. -/
  inFlight : c.inFlight.toNat = t.liveOf f

/-- **The counters of a filter balance**: they are the numbers of its calls that were issued, and that ended. -/
theorem Kept.balanced (h : t.Kept filters) (hfew : t.calls.length < 2 ^ 64) (f : DarkId) :
    Balanced t f (Counts.ofRecord f t.record) := by
  have hissued := t.issuedBy_eq f
  have hle : t.issuedBy f ≤ t.calls.length := List.countP_le_length
  have hrequests : (Counts.ofRecord f t.record).requests.toNat = t.issuedBy f := by
    rw [Counts.requests_eq_count, h.count_darkIssued]
    exact UInt64.toNat_ofNat_of_lt' (show t.issuedBy f < 2 ^ 64 by omega)
  have hended : ∀ outcome, ((Counts.ofRecord f t.record).ended outcome).toNat = t.endedBy f outcome := by
    intro outcome
    rw [Counts.ended_eq_count, h.count_darkFinished]
    have hlt : t.endedBy f outcome < 2 ^ 64 := by cases outcome <;> omega
    exact UInt64.toNat_ofNat_of_lt' hlt
  have hsuccess : (Counts.ofRecord f t.record).successes.toNat = t.endedBy f .success := hended .success
  have hfailure : (Counts.ofRecord f t.record).failures.toNat = t.endedBy f .failure := hended .failure
  have htimeout : (Counts.ofRecord f t.record).timeouts.toNat = t.endedBy f .timeout := hended .timeout
  generalize Counts.ofRecord f t.record = c at *
  have hsum : (c.successes + c.failures + c.timeouts).toNat =
      c.successes.toNat + c.failures.toNat + c.timeouts.toNat := by
    rw [UInt64.toNat_add, UInt64.toNat_add]
    omega
  have hended_le : c.successes + c.failures + c.timeouts ≤ c.requests := by
    rw [UInt64.le_iff_toNat_le]
    omega
  refine ⟨hrequests, hended, by omega, hsum, hended_le, ?_⟩
  rw [Counts.inFlight, if_pos hended_le, UInt64.toNat_sub_of_le _ _ hended_le]
  omega

/-! ## All filters together -/

/-- Counting filter by filter is counting. -/
theorem sum_countP (hnodup : filters.Nodup) {calls : List Tracked}
    (hcalls : ∀ m ∈ calls, m.call.filter ∈ filters) (P : Tracked → Prop) [DecidablePred P] :
    (filters.map fun f => calls.countP fun m => m.call.filter = f ∧ P m).sum =
      calls.countP fun m => P m := by
  induction calls with
  | nil => simp
  | cons m calls ih =>
    obtain ⟨hm, hrest⟩ := List.forall_mem_cons.mp hcalls
    -- the call counts for its own filter, which is there once
    have hsingle : (filters.map fun f => if m.call.filter = f ∧ P m then 1 else 0).sum =
        if P m then 1 else 0 := by
      rw [List.sum_map_eq_nsmul_single m.call.filter _ fun f hf _ => if_neg fun h => hf h.1.symm,
        List.count_eq_one_of_mem hnodup hm, one_nsmul]
      simp only [true_and]
    simp only [List.countP_cons, List.sum_map_add, ih hrest, decide_eq_true_eq, hsingle]

/-- The metric of issues is the sum of what the filters counted. -/
theorem Kept.total_darkIssued (h : t.Kept filters) (hnodup : filters.Nodup)
    (hfew : t.calls.length < 2 ^ 64) :
    Observation.total (Metric.series .darkIssued) (Observation.totals t.record) =
      (filters.map fun f => (Counts.ofRecord f t.record).requests.toNat).sum := by
  have hsum := sum_countP hnodup h.filters fun _ => True
  simp only [and_true] at hsum
  simp only [(h.balanced hfew _).issued, issuedBy]
  rw [Metric.total_series (by decide), h.count_record rfl, hsum]
  simp only [Tracked.metric_darkIssued_mem_entries]

/-- And so is the metric of an outcome. -/
theorem Kept.total_darkFinished (h : t.Kept filters) (hnodup : filters.Nodup)
    (hfew : t.calls.length < 2 ^ 64) (outcome : DarkOutcome) :
    Observation.total (Metric.series (.darkFinished outcome)) (Observation.totals t.record) =
      (filters.map fun f => ((Counts.ofRecord f t.record).ended outcome).toNat).sum := by
  have hdark : Metric.darkFinished outcome ∈ Metric.dark := Metric.isDark_iff.mp rfl
  simp only [(h.balanced hfew _).ended, endedBy]
  rw [Metric.total_series hdark, h.count_record rfl, sum_countP hnodup h.filters]
  simp only [Tracked.metric_darkFinished_mem_entries]

/-! ## One move -/

/-- What a move does to the counters. -/
inductive Counting (t t' : Traffic) : Move → Prop where
  /-- Issuing a call counts it as issued by its filter; it is under way then. -/
  | issued {c : Call} (hcalls : t'.calls = t.calls ++ [.start c])
      (hcounts : ∀ f, Counts.ofRecord f t'.record =
        (Counts.ofRecord f t.record).push f (.darkIssued c.filter)) : Counting t t' (.issue c)
  /-- The turn that ends a call counts this, for its filter and for what it came to. -/
  | ended {before after : List Tracked} {m m' : Tracked} {outcome : DarkOutcome}
      (hcalls : t.calls = before ++ m :: after) (hcalls' : t'.calls = before ++ m' :: after)
      (hcall : m'.call = m.call)
      (hlive : m.outcome? = none) (hover : m'.outcome? = some outcome)
      (hcounts : ∀ f, Counts.ofRecord f t'.record =
        (Counts.ofRecord f t.record).push f (.darkFinished m.call.filter outcome)) :
      Counting t t' (.turn before.length)
  /-- Any other move ends no call, and counts nothing. -/
  | nothing {mv : Move}
      (hcalls : (t'.calls.map fun m => (m.call, m.outcome?)) = t.calls.map fun m => (m.call, m.outcome?))
      (hcounts : ∀ f, Counts.ofRecord f t'.record = Counts.ofRecord f t.record) : Counting t t' mv

/-- **Nothing is counted but a call that is issued and a call that ends.** -/
theorem Kept.counting (h : t.Kept filters) {mv : Move} (hmv : mv.Allowed filters) :
    Counting t (t.move mv) mv := by
  cases mv with
  | issue c => exact .issued rfl fun f => Counts.ofRecord_append c.beginning
  | other o =>
    refine .nothing rfl fun f => ?_
    show Counts.ofRecord f (t.record ++ [o]) = _
    rw [Counts.ofRecord_append, List.filter_cons_of_neg (Bool.eq_false_iff.mp hmv)]
    rfl
  | turn i =>
    cases hm : t.calls[i]? with
    | none =>
      rw [move_turn_of_none hm]
      exact .nothing rfl fun _ => rfl
    | some m =>
      have hright := h.right m (List.mem_of_getElem? hm)
      have hcall := Tracked.call_turn hright t.record.reverse
      obtain ⟨record, calls⟩ := t
      obtain ⟨before, after, rfl, rfl⟩ := split_of_getElem? hm
      rw [move_turn]
      rcases Tracked.counts_turn hright record.reverse with
        ⟨houtcome, hnone⟩ | ⟨outcome, hlive, hover, hcounted⟩
      · refine .nothing ?_ fun f => ?_
        · simp only [List.map_append, List.map_cons, hcall, houtcome]
        · rw [Counts.ofRecord_append, hnone]
          rfl
      · refine .ended rfl rfl hcall hlive hover fun f => ?_
        rw [Counts.ofRecord_append, hcounted]
        rfl

end Traffic

/-! ## Any interleaving -/

/-- What holds of dark traffic. -/
structure Conserved (filters : List DarkId) (t : Traffic) : Prop where
  /-- The counters of each filter balance. -/
  counters (f : DarkId) : Traffic.Balanced t f (Counts.ofRecord f t.record)
  /-- The series of issued calls is the sum over all filters. -/
  issued : Observation.total (Metric.series .darkIssued) (Observation.totals t.record) =
    (filters.map fun f => (Counts.ofRecord f t.record).requests.toNat).sum
  /-- So is the series of each outcome. -/
  ended (outcome : DarkOutcome) :
    Observation.total (Metric.series (.darkFinished outcome)) (Observation.totals t.record) =
      (filters.map fun f => ((Counts.ofRecord f t.record).ended outcome).toNat).sum
  /-- A call that is over came to the outcome that its client earned. -/
  judged {m : Tracked} {acts : List (Prog.Action Unit Empty)} {outcome : DarkOutcome} :
    m ∈ t.calls → m.progress = .ended acts outcome → Judged m.call acts outcome
  /-- The next move counts a call that it issues, or one that it ends, or nothing. -/
  counting {mv : Move} : mv.Allowed filters → Traffic.Counting t (t.move mv) mv
  /-- A call that is over is never counted again. -/
  once {i : Nat} {m : Tracked} {acts : List (Prog.Action Unit Empty)} {outcome : DarkOutcome} :
    t.calls[i]? = some m → m.progress = .ended acts outcome →
      ∀ later, (t.run later).calls[i]? = some m
  /-- A call under way is counted in the end if it goes on taking turns. -/
  ends {i : Nat} {c : Call} {acts : List (Prog.Action Unit Empty)}
      {rest : Background (Option (Except Error Unit))} {later : Nat → Move} :
    t.calls[i]? = some ⟨c, .live acts rest⟩ → (∀ n, (later n).Allowed filters) →
      Traffic.TakesTurns later i → Traffic.ComesToEnd t later i c
  /-- What a machine does that runs a program which issues dark calls is such moves. -/
  machine {σ α : Type} {p : Flow σ Empty Empty α} {m : Machine σ} :
    p.Issues filters → Traffic.Shows m t → Traffic.Leads filters t (Machine.run p m).2
  /-- Such a program is a request that goes through dark traffic filters, among others. -/
  request {σ Req Rep : Type} {chain : Chain σ Req Rep} {terminal : Handler σ Req Rep} :
    (∀ f ∈ chain, Issuing filters f) → (∀ req, (terminal req).Issues filters) →
      ∀ req, (chain.compose terminal req).Issues filters

/-- **Dark calls are conserved.**  After any interleaving of fewer than `2 ^ 64` calls of any filters, each
    filter has counted as issued what it has counted as ended and what is under way, so a snapshot's calls
    in flight are those under way; each call is counted once, by what its client did within its time; and
    the series of dark calls are the sums over the filters. -/
theorem dark_calls_are_conserved {filters : List DarkId} (hnodup : filters.Nodup) {moves : List Move}
    (hmoves : ∀ mv ∈ moves, mv.Allowed filters) {t : Traffic} (ht : t = ({} : Traffic).run moves)
    (hfew : t.calls.length < 2 ^ 64) : Conserved filters t := by
  have hkept : t.Kept filters := ht ▸ Traffic.kept_start.run hmoves
  refine {
    counters := hkept.balanced hfew
    issued := hkept.total_darkIssued hnodup hfew
    ended := hkept.total_darkFinished hnodup hfew
    judged := fun hm hover => ?_
    counting := hkept.counting
    once := fun hm hover later => Traffic.getElem?_run hm hover later
    ends := fun hm hlater hturns => hkept.comesToEnd hm hlater hturns
    machine := fun hp hshows => Traffic.leads_run hp hkept hshows
    request := issues_compose }
  have hright := hkept.right _ hm
  rw [Tracked.Right, hover] at hright
  exact hright

/-- One filter whose client answers at once and one whose client never does: a call of each, a mark in
    between, and the first call over while the second waits. -/
theorem dark_calls_are_conserved_hanging :
    let quick : Call := ⟨({ id := 1, client := ⟨fun _ => .done (.ok ())⟩ } : Settings Unit Unit), ()⟩
    let stuck : Call := ⟨({ id := 2, client := ⟨fun _ => .halt⟩ } : Settings Unit Unit), ()⟩
    let t := ({} : Traffic).run [.issue quick, .issue stuck, .turn 0, .other (.mark "between"), .turn 1]
    Conserved [1, 2] t ∧ (Counts.ofRecord 1 t.record).successes = 1 ∧
      (Counts.ofRecord 2 t.record).inFlight = 1 := by
  intro quick stuck t
  have hquick : quick.Quiet := fun o h => nomatch h
  have hstuck : stuck.Quiet := fun o h => nomatch h
  refine ⟨dark_calls_are_conserved (by decide) (fun mv hmv => ?_) rfl (by decide), by decide, by decide⟩
  simp only [List.mem_cons, List.not_mem_nil, or_false] at hmv
  rcases hmv with rfl | rfl | rfl | rfl | rfl
  · exact ⟨by decide, hquick⟩
  · exact ⟨by decide, hstuck⟩
  · exact trivial
  · exact rfl
  · exact trivial

end Dark
end Switchyard
