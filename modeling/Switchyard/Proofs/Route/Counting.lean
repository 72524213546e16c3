import Switchyard.Proofs.Observe.Series
import Switchyard.Proofs.Program.Sessions
import Switchyard.Proofs.Route.Recording

/-!
  Every dispatch is counted once.

  Two kinds of increments count dispatches: those of requests that were answered, and those of requests that
  no route answers (`Metric.isCount`).  If the filter that counts requests is added before anything else, and
  nothing else leaves such increments (`BuildCall.CountsNothing`), then a dispatch does something that counts
  nothing, leaves one such increment, and is over (`CountsOnce`): whatever the other filters do with the rest
  of the path, they do it inside of the filter that counts.

  So of what a record tells of dispatches, one increment belongs to each (`counted_as_of_tells`), and every
  sum over series is a number of dispatches (`Counted`).

  The main statement is `every_dispatch_is_counted_once`: this is so for dispatches one after the other on a
  machine, and for dispatches that overlap in any way.
-/

namespace Switchyard

/-! ## Increments that count dispatches -/

namespace Metric

/-- Is it the count of requests of a route, whatever the method and the status? -/
def isRequest : Metric → Bool
  | request .. => true
  | _ => false

/-- Is it the count of requests of routes with this name, with this method? -/
def isRequestOf (name method : String) : Metric → Bool
  | request route method' _ => route == name && method' == method
  | _ => false

/-- Is it the count of requests that no route answers? -/
def isRouteNotFound : Metric → Bool
  | routeNotFound _ => true
  | _ => false

/-- Does it count dispatches? -/
def isCount (m : Metric) : Bool := m.isRequest || m.isRouteNotFound

end Metric

namespace Observation

/-- Does the entry count a dispatch? -/
def isCount : Observation → Bool
  | metric m => m.isCount
  | _ => false

/-- The increments of a record that count dispatches. -/
def counts (record : List Observation) : List Metric := metrics (record.filter isCount)

theorem counts_append (r r' : List Observation) : counts (r ++ r') = counts r ++ counts r' := by
  rw [counts, List.filter_append, metrics_append]
  rfl

theorem counts_eq (record : List Observation) : counts record = (metrics record).filter Metric.isCount := by
  induction record with
  | nil => rfl
  | cons o record ih =>
    show metrics ((o :: record).filter isCount) = _
    cases o with
    | metric m =>
      have hm : isCount (.metric m) = m.isCount := rfl
      show _ = (m :: metrics record).filter Metric.isCount
      rw [List.filter_cons, List.filter_cons, hm, ← ih]
      cases m.isCount with
      | true => rfl
      | false => rfl
    | _ => exact ih

/-- How many increments of a kind there are is told by those that count, if the kind does. -/
theorem countP_counts {kind : Metric → Bool} (hkind : ∀ m, kind m = true → m.isCount = true)
    (record : List Observation) : (counts record).countP kind = (metrics record).countP kind := by
  rw [counts_eq, List.countP_filter]
  refine List.countP_congr fun m _ => ?_
  rw [Bool.and_eq_true]
  exact ⟨fun h => h.1, fun h => ⟨h, hkind m h⟩⟩

theorem isCount_of_isRequestOf {name method : String} {m : Metric} (h : m.isRequestOf name method = true) :
    m.isCount = true := by
  cases m with
  | request route method' status => rfl
  | _ => cases h

end Observation

/-! ## What counts nothing -/

section Uncounting

variable {σ Req Q A Rep : Type}

/-- A program leaves no entry that counts a dispatch, neither itself nor by a job that it starts. -/
def Prog.Uncounting {α : Type} (p : Flow σ Q A α) : Prop :=
  ∀ entry, p.Leaves Job.Leaves entry → entry.isCount = false

theorem Prog.uncounting_done {α : Type} (a : α) : (.done a : Flow σ Q A α).Uncounting := fun _ h => nomatch h

theorem Filter.uncounting_mapFailures (r : Resolver Rep) (req : Req) :
    (mapFailures r req : Flow σ Req (Outcome Rep) (Outcome Rep)).Uncounting := by
  intro entry h
  rw [mapFailures_eq] at h
  rcases Prog.leaves_of_bind h with h | ⟨o, h⟩
  · cases h with
    | answered o h => cases h
  rw [settle_eq] at h
  rcases Prog.leaves_of_bind h with h | ⟨u, h⟩
  · obtain ⟨e, rfl⟩ := event_of_mem_settlingNotes (Prog.mem_of_leaves_observeAll h)
    rfl
  · cases h

theorem Filter.counts_settlingNotes (r : Resolver Rep) (outcome : Outcome Rep) :
    Observation.counts (settlingNotes r outcome) = [] := by
  have hnone : (settlingNotes r outcome).filter Observation.isCount = [] := by
    refine List.filter_eq_nil_iff.mpr fun o ho => ?_
    obtain ⟨e, rfl⟩ := event_of_mem_settlingNotes ho
    exact Bool.false_ne_true
  rw [Observation.counts, hnone]
  rfl

/-- A handler behind filters counts nothing if neither it nor they do. -/
theorem Chain.uncounting_compose {c : Chain σ Req Rep} {terminal : Handler σ Req Rep}
    (hc : ∀ f ∈ c, ∀ req, (f req).Uncounting) (hterminal : ∀ req, (terminal req).Uncounting) (req : Req) :
    (c.compose terminal req).Uncounting := by
  induction c generalizing req with
  | nil => exact hterminal req
  | cons f c ih =>
    obtain ⟨hf, hrest⟩ := List.forall_mem_cons.mp hc
    intro entry h
    rcases Prog.leaves_of_answer h with h | ⟨q, h⟩
    · exact hf req entry h
    · exact ih hrest q entry h

/-- A run of a program that counts nothing shows nothing that counts. -/
theorem Prog.Uncounting.counts_eq_nil {α : Type} {p : Flow σ Empty Empty α} (hp : p.Uncounting)
    {acts : List (Action σ Job)} {r : Option α} (h : Run p acts r) : Observation.counts (entries acts) = [] :=
  congrArg Observation.metrics (filter_entries_of_unseen hp h)

end Uncounting

theorem Prog.entries_append {σ δ : Type} (acts acts' : List (Action σ δ)) :
    entries (acts ++ acts') = entries acts ++ entries acts' := List.flatMap_append

theorem Prog.entries_noted {σ δ : Type} (os : List Observation) :
    entries (os.map (.noted ·) : List (Action σ δ)) = os := by
  rw [entries, List.flatMap_map]
  exact List.flatMap_singleton' os

namespace Route

variable {σ : Type}

/-- Neither the filters nor the routes that a call contributes count a dispatch. -/
structure BuildCall.CountsNothing (k : BuildCall σ) : Prop where
  filters : ∀ f ∈ k.filters, ∀ req, (f req).Uncounting
  own : ∀ r ∈ k.routes, ∀ f ∈ r.filters, ∀ req, (f req).Uncounting
  callbacks : ∀ r ∈ k.routes, ∀ req, (r.callback req).Uncounting

/-! ## One dispatch -/

/-- A request that was dispatched, and what it came to. -/
structure Exchange where
  options : Options
  request : Http.Request
  out : Except DispatchError Http.Response

namespace Exchange

/-- The name of the route that the request selected, if it selected one. -/
def selected? (x : Exchange) (router : Router σ) : Option String :=
  (router.table.lookup x.options.interface x.request.method x.request.target.path).map
    fun found => found.1.matched.name

/-- Was it returned that there is no route? -/
def isRouteNotFound (x : Exchange) : Bool :=
  match x.out with
  | .error (.routeNotFound ..) => true
  | _ => false

end Exchange

/-- The increment that counts a dispatch. -/
inductive CountedAs (router : Router σ) (x : Exchange) : Metric → Prop where
  | unmatched (hselected : x.selected? router = none) (hout : x.isRouteNotFound = true) :
      CountedAs router x (.routeNotFound x.options.interface)
  | matched (name : String) (status : Http.Status) (hselected : x.selected? router = some name)
      (hout : x.isRouteNotFound = false) :
      CountedAs router x (.request name x.request.method status)

/-- A dispatch does something that counts nothing, leaves entries of which one counts it, and is over. -/
inductive CountsOnce (router : Router σ) (o : Options) (req : Http.Request) :
    Flow σ Empty Empty (Except DispatchError Http.Response) → Prop where
  | intro {α : Type} (inner : Flow σ Empty Empty α) (notes : α → List Observation)
      (out : α → Except DispatchError Http.Response) (hinner : inner.Uncounting)
      (hnotes : ∀ a, ∃ m, Observation.counts (notes a) = [m] ∧ CountedAs router ⟨o, req, out a⟩ m) :
      CountsOnce router o req (inner.bind fun a => (Prog.observeAll (notes a)).bind fun _ => .done (out a))

namespace CountsOnce

variable {router : Router σ} {o : Options} {req : Http.Request}
  {p : Flow σ Empty Empty (Except DispatchError Http.Response)}

/-- A run that is over shows one increment that counts. -/
theorem counts_of_run (h : CountsOnce router o req p) {acts : List (Prog.Action σ Job)}
    {out : Except DispatchError Http.Response} (hrun : Prog.Run p acts (some out)) :
    ∃ m, Observation.counts (Prog.entries acts) = [m] ∧ CountedAs router ⟨o, req, out⟩ m := by
  obtain ⟨inner, notes, out', hinner, hnotes⟩ := h
  rcases Prog.runs_bind_iff.mp hrun with ⟨hnone, -⟩ | ⟨a, before, noted, hbefore, hnoted, rfl⟩
  · cases hnone
  obtain ⟨later, hdone, rfl⟩ := Prog.runs_observeAll_bind_iff.mp hnoted
  obtain ⟨rfl, hnone | hout⟩ := Prog.runs_done_iff.mp hdone
  · cases hnone
  obtain rfl := Option.some.inj hout
  obtain ⟨m, hm, hcounted⟩ := hnotes a
  have hentries : Prog.entries ((notes a).map fun o => id (Prog.Action.noted o) : List (Prog.Action σ Job))
      = notes a := Prog.entries_noted (notes a)
  refine ⟨m, ?_, hcounted⟩
  rw [List.append_nil, Prog.entries_append, hentries, Observation.counts_append,
    hinner.counts_eq_nil hbefore]
  exact hm

/-- The jobs that are started count nothing. -/
theorem startsOnly (h : CountsOnce router o req p) : p.StartsOnly (Job.Unseen Observation.isCount) := by
  obtain ⟨inner, notes, out, hinner, -⟩ := h
  refine Prog.startsOnly_bind (Prog.startsOnly_of_unseen hinner) fun a => ?_
  exact Prog.startsOnly_bind (Prog.startsOnly_observeAll _ _) fun _ => trivial

end CountsOnce

/-- The filters that a route is registered with were contributed by calls. -/
theorem registered_prefix {p : Registered σ} {global : Http.Chain σ} {ks : List (BuildCall σ)}
    (h : p ∈ registered global ks) : p.global <+: global ++ ks.flatMap BuildCall.filters := by
  induction ks generalizing global with
  | nil => cases h
  | cons k ks ih =>
    rw [registered] at h
    rcases List.mem_append.mp h with h | h
    · obtain ⟨r, -, rfl⟩ := List.mem_map.mp h
      exact List.prefix_append _ _
    · have hprefix := ih h
      rw [List.append_assoc, ← List.flatMap_cons] at hprefix
      exact hprefix

/-- The filter that is added first is the first of the filters of every route; everything else comes from
    the calls after it. -/
theorem of_mem_registered_cons {f : Http.Filter σ} {rest : List (BuildCall σ)} {p : Registered σ}
    (h : p ∈ registered [] (accepted (.addFilter f :: rest))) :
    ∃ further, p.global = f :: further ∧ (∀ g ∈ further, ∃ k ∈ rest, g ∈ k.filters) ∧
      ∃ k ∈ rest, p.route ∈ k.routes := by
  obtain ⟨later, haccepted, hlater⟩ :
      ∃ later, accepted (.addFilter f :: rest) = .addFilter f :: later ∧ later ⊆ rest :=
    ⟨_, rfl, Construction.accepted_sublist.subset⟩
  rw [haccepted] at h
  have hregistered : p ∈ registered [f] later := h
  obtain ⟨further, hglobal⟩ := prefix_of_registered hregistered
  have hprefix := registered_prefix hregistered
  rw [← hglobal] at hprefix
  have hfilters : further <+: later.flatMap BuildCall.filters := (List.prefix_cons_inj f).mp hprefix
  have hroute := List.mem_map_of_mem (f := Registered.route) hregistered
  rw [map_route_registered] at hroute
  refine ⟨further, hglobal.symm, fun g hg => ?_, ?_⟩
  · obtain ⟨k, hk, hkg⟩ := List.mem_flatMap.mp (hfilters.subset hg)
    exact ⟨k, hlater hk, hkg⟩
  · obtain ⟨k, hk, hkr⟩ := List.mem_flatMap.mp hroute
    exact ⟨k, hlater hk, hkr⟩

section Frozen

variable {rest : List (BuildCall σ)} {router : Router σ}

/-- **A dispatch counts once**, whatever the filters behind the first one do. -/
theorem countsOnce_dispatch (hfreeze : (built (.addFilter stats :: rest)).freeze.result = .ok router)
    (hrest : ∀ k ∈ rest, k.CountsNothing) {o : Options} (hbypass : o.bypass = false) (req : Http.Request) :
    CountsOnce router o req (router.dispatch o req) := by
  obtain ⟨resolver, -, htable⟩ := router_of_freeze hfreeze
  cases hlookup : router.table.lookup o.interface req.method req.target.path with
  | none =>
    have hdispatch : router.dispatch o req = notFound o.interface req := by
      rw [Router.dispatch, hlookup]
      rfl
    rw [hdispatch]
    refine .intro (.done ()) (fun _ => _) (fun _ => _) (Prog.uncounting_done ()) fun _ => ⟨_, rfl, ?_⟩
    refine .unmatched ?_ rfl
    rw [Exchange.selected?, hlookup]
    rfl
  | some found =>
    obtain ⟨c, params⟩ := found
    obtain ⟨earlier, p, later, hregs, rfl, hfirst⟩ := (lookup_eq_some_iff htable).mp hlookup
    have hmem : p ∈ registered [] (accepted (.addFilter stats :: rest)) :=
      hregs ▸ List.mem_append_right _ List.mem_cons_self
    obtain ⟨further, hglobal, hfilters, k, hk, hroute⟩ := of_mem_registered_cons hmem
    rw [dispatch_of_answersFirst htable hregs hfirst, hbypass, hglobal]
    show CountsOnce router o req (dispatched ((stages resolver (stats :: further) p.route.filters).compose
      p.route.callback) (req.enter p.route params))
    rw [dispatched_counted]
    -- behind the filter that counts there is nothing else that does
    refine .intro _ _ _ (Chain.uncounting_compose (fun f hf => ?_) ((hrest k hk).callbacks _ hroute) _)
      fun outcome => ⟨_, ?_, CountedAs.matched p.route.name (countedStatus outcome) ?_ rfl⟩
    · rcases List.mem_append.mp hf with hf | hf
      · obtain ⟨k', hk', hkf⟩ := hfilters f hf
        exact (hrest k' hk').filters f hkf
      rcases List.mem_cons.mp hf with rfl | hf
      · exact Filter.uncounting_mapFailures resolver
      · exact (hrest k hk).own _ hroute f hf
    · rw [Observation.counts_append, Filter.counts_settlingNotes]
      rfl
    · rw [Exchange.selected?, hlookup]
      rfl

/-! ## Many dispatches -/

/-- A record tells of dispatches: of what counts it has what runs of them show, in any order. -/
def TellsOf (router : Router σ) (xs : List Exchange) (record : List Observation) : Prop :=
  ∃ runs : List (List (Prog.Action σ Job)),
    List.Forall₂ (fun x acts => Prog.Run (router.dispatch x.options x.request) acts (some x.out)) xs runs ∧
      (Observation.counts record).Perm (Observation.counts (runs.flatMap Prog.entries))

/-- **One increment belongs to each dispatch that a record tells of.** -/
theorem counted_as_of_tells (hfreeze : (built (.addFilter stats :: rest)).freeze.result = .ok router)
    (hrest : ∀ k ∈ rest, k.CountsNothing) {xs : List Exchange} (hbypass : ∀ x ∈ xs, x.options.bypass = false)
    {record : List Observation} (htells : TellsOf router xs record) :
    ∃ ms, List.Forall₂ (CountedAs router) xs ms ∧ (Observation.counts record).Perm ms := by
  obtain ⟨runs, hruns, hperm⟩ := htells
  suffices hcounted : List.Forall₂ (CountedAs router) xs (Observation.counts (runs.flatMap Prog.entries)) from
    ⟨_, hcounted, hperm⟩
  clear hperm
  -- along the dispatches: each adds one increment
  induction hruns with
  | nil => exact .nil
  | @cons x acts xs runs hrun _ ih =>
    obtain ⟨hx, hxs⟩ := List.forall_mem_cons.mp hbypass
    obtain ⟨m, hm, hcounted⟩ := (countsOnce_dispatch hfreeze hrest hx x.request).counts_of_run hrun
    rw [List.flatMap_cons, Observation.counts_append, hm]
    exact .cons hcounted (ih hxs)

end Frozen

/-- What the series of a record say about the dispatches that it tells of. -/
structure Counted (router : Router σ) (xs : List Exchange) (record : List Observation) : Prop where
  /-- All series together count every dispatch. -/
  all : Observation.sumOver Metric.isRequest record + Observation.sumOver Metric.isRouteNotFound record
    = xs.length
  /-- The series of an interface counts its dispatches that returned that there is no route. -/
  notFound (i : Interface) : Observation.value (.routeNotFound i) record
    = xs.countP fun x => x.options.interface == i && x.isRouteNotFound
  /-- The series of a name and a method, with any status, count the dispatches with that method that
      selected a route of that name. -/
  routed (name method : String) : Observation.sumOver (Metric.isRequestOf name method) record
    = xs.countP fun x => x.selected? router == some name && x.request.method == method

/-- If one increment belongs to each dispatch, sums over series are numbers of dispatches. -/
theorem counted_of_counted_as {router : Router σ} {xs : List Exchange} {ms : List Metric}
    {record : List Observation} (hcounted : List.Forall₂ (CountedAs router) xs ms)
    (hperm : (Observation.counts record).Perm ms) : Counted router xs record := by
  -- increments of a kind are as many as dispatches that are counted as such
  have hnumber : ∀ (kind : Metric → Bool) (isOf : Exchange → Bool), (∀ m, kind m = true → m.isCount = true) →
      (∀ x m, CountedAs router x m → isOf x = kind m) →
      (Observation.metrics record).countP kind = xs.countP isOf := by
    intro kind isOf hkind hisOf
    rw [← Observation.countP_counts hkind, hperm.countP_eq]
    exact (Observation.countP_of_forall₂ hisOf hcounted).symm
  constructor
  · have hrequests := hnumber Metric.isRequest (fun x => !x.isRouteNotFound)
      (fun m h => by rw [Metric.isCount, h, Bool.true_or]) fun x m h => by
        cases h with
        | unmatched hselected hout => rw [hout]; rfl
        | matched selected status hselected hout => rw [hout]; rfl
    have hnotFound := hnumber Metric.isRouteNotFound (fun x => x.isRouteNotFound)
      (fun m h => by rw [Metric.isCount, h, Bool.or_true]) fun x m h => by
        cases h with
        | unmatched hselected hout => exact hout
        | matched selected status hselected hout => exact hout
    rw [Observation.sumOver_eq_countP, Observation.sumOver_eq_countP, hrequests, hnotFound,
      List.length_eq_countP_add_countP fun x : Exchange => x.isRouteNotFound, Nat.add_comm]
    simp only [Bool.not_eq_true, Bool.decide_eq_false]
  · intro i
    rw [Observation.value_eq_countP]
    refine hnumber _ _ (fun m h => ?_) fun x m h => ?_
    · rw [eq_of_beq h]
      rfl
    · cases h with
      | unmatched hselected hout =>
        rw [hout, Bool.and_true, Bool.eq_iff_iff, beq_iff_eq, beq_iff_eq, Metric.routeNotFound.injEq]
      | matched selected status hselected hout =>
        rw [hout, Bool.and_false]
        rfl
  · intro name method
    rw [Observation.sumOver_eq_countP]
    refine hnumber _ _ (fun m => Observation.isCount_of_isRequestOf) fun x m h => ?_
    cases h with
    | unmatched hselected hout =>
      rw [hselected]
      rfl
    | matched selected status hselected hout =>
      rw [hselected]
      rfl

/-! ## Sessions -/

/-- A request on its way to a router, and the milliseconds that pass after it was answered. -/
structure Arrival where
  options : Options
  request : Http.Request
  pause : Nat := 0

/-- The request, with what it came to. -/
def Arrival.answered (a : Arrival) (out : Except DispatchError Http.Response) : Exchange :=
  ⟨a.options, a.request, out⟩

/-- Requests are dispatched one after the other. -/
def Router.session (router : Router σ) (arrivals : List Arrival) (m : Machine σ) :
    List (Option (Except DispatchError Http.Response)) × Machine σ :=
  Machine.runAll (arrivals.map fun a => (router.dispatch a.options a.request, a.pause)) m

section Frozen

variable {rest : List (BuildCall σ)} {router : Router σ}

/-- The record of a session tells of its dispatches. -/
theorem tellsOf_session (hfreeze : (built (.addFilter stats :: rest)).freeze.result = .ok router)
    (hrest : ∀ k ∈ rest, k.CountsNothing) {arrivals : List Arrival}
    (hbypass : ∀ a ∈ arrivals, a.options.bypass = false) {s : σ}
    {outs : List (Except DispatchError Http.Response)} {m : Machine σ}
    (hsession : router.session arrivals ⟨s, [], []⟩ = (outs.map some, m)) :
    TellsOf router (arrivals.zipWith Arrival.answered outs) m.record := by
  have hjobs : ∀ p ∈ arrivals.map fun a => (router.dispatch a.options a.request, a.pause),
      p.1.StartsOnly (Job.Unseen Observation.isCount) :=
    List.forall_mem_map.mpr fun a ha => (countsOnce_dispatch hfreeze hrest (hbypass a ha) a.request).startsOnly
  have hquiet : Machine.Quiet Observation.isCount (⟨s, [], []⟩ : Machine σ) := fun p hp => nomatch hp
  obtain ⟨told, rfl, hruns, htells⟩ := Machine.runAll_told hjobs hquiet hsession
  rw [List.forall₂_map_left_iff] at hruns
  refine ⟨told.map Prod.fst, ?_, ?_⟩
  · clear hsession htells hjobs hbypass
    induction hruns with
    | nil => exact .nil
    | cons hrun _ ih => exact .cons hrun ih
  · have hrecord : m.record.filter Observation.isCount
        = (told.flatMap fun t => Prog.entries t.1).filter Observation.isCount := htells.record
    rw [Observation.counts, hrecord, List.flatMap_map]
    exact List.Perm.refl _

/-- **Every dispatch is counted once.**  If the filter that counts requests is the first thing that is added
    to a router, and nothing that is added later counts, then the series of a record count the dispatches
    that it tells of, overlapping in any way; and the record of dispatches one after the other, with any time
    in between, tells of just these. -/
theorem every_dispatch_is_counted_once
    (hfreeze : (built (.addFilter stats :: rest)).freeze.result = .ok router)
    (hrest : ∀ k ∈ rest, k.CountsNothing) :
    (∀ (xs : List Exchange) (record : List Observation), (∀ x ∈ xs, x.options.bypass = false) →
      TellsOf router xs record → Counted router xs record) ∧
    ∀ (arrivals : List Arrival) (s : σ) (outs : List (Except DispatchError Http.Response)) (m : Machine σ),
      (∀ a ∈ arrivals, a.options.bypass = false) →
      router.session arrivals ⟨s, [], []⟩ = (outs.map some, m) →
      Counted router (arrivals.zipWith Arrival.answered outs) m.record := by
  have hall : ∀ (xs : List Exchange) (record : List Observation), (∀ x ∈ xs, x.options.bypass = false) →
      TellsOf router xs record → Counted router xs record := by
    intro xs record hbypass htells
    obtain ⟨ms, hcounted, hperm⟩ := counted_as_of_tells hfreeze hrest hbypass htells
    exact counted_of_counted_as hcounted hperm
  refine ⟨hall, fun arrivals s outs m hbypass hsession => hall _ _ ?_ ?_⟩
  · intro x hx
    rw [← List.map_uncurry_zip_eq_zipWith] at hx
    obtain ⟨⟨a, out⟩, hmem, rfl⟩ := List.mem_map.mp hx
    exact hbypass a (List.of_mem_zip hmem).1
  · exact tellsOf_session hfreeze hrest hbypass hsession

end Frozen

/-- A filter that runs the rest of the path twice, and one of the route's own that fails. -/
theorem every_dispatch_is_counted_once_twice :
    let twice : Http.Filter Unit := fun req => .ask req fun _ => .ask req .done
    let failing : Http.Filter Unit := fun _ => .done (.error (.ofHttp (.conflict "busy")))
    let ping : Route Unit :=
      { name := "ping", method := "GET", pattern := .constant "/ping", filters := [failing]
        callback := fun _ => .done (.ok { status := 200 }) }
    let arrivals : List Arrival :=
      ["/ping", "/none"].map fun path => ⟨{}, { target := { path := path } }, 1⟩
    ∃ router m, ∃ outs : List (Except DispatchError Http.Response),
      (built [.addFilter stats, .addFilter twice, .add ping]).freeze.result = .ok router ∧
      router.session arrivals ⟨(), [], []⟩ = (outs.map some, m) ∧
      Observation.sumOver (Metric.isRequestOf "ping" "GET") m.record = 1 ∧
      Observation.value (.routeNotFound .external) m.record = 1 ∧
      Observation.sumOver Metric.isRequest m.record + Observation.sumOver Metric.isRouteNotFound m.record
        = 2 := by
  intro twice failing ping arrivals
  have hfreeze : (built [.addFilter stats, .addFilter twice, .add ping]).freeze.result = .ok _ := rfl
  have htwice : ∀ req, (twice req).Uncounting := by
    intro req entry h
    cases h with
    | answered a h =>
    cases h with
    | answered a h => cases h
  have hrest : ∀ k ∈ [.addFilter twice, .add ping], BuildCall.CountsNothing k := by
    intro k hk
    rcases List.mem_cons.mp hk with rfl | hk
    · exact ⟨List.forall_mem_singleton.mpr htwice, List.forall_mem_nil _, List.forall_mem_nil _⟩
    · obtain rfl := List.mem_singleton.mp hk
      exact ⟨List.forall_mem_nil _,
        List.forall_mem_singleton.mpr (List.forall_mem_singleton.mpr fun req => Prog.uncounting_done _),
        List.forall_mem_singleton.mpr fun req => Prog.uncounting_done _⟩
  have hcounted := (every_dispatch_is_counted_once hfreeze hrest).2 arrivals () [_, _] _ (by decide) rfl
  exact ⟨_, _, [_, _], hfreeze, rfl, hcounted.routed "ping" "GET", hcounted.notFound .external, hcounted.all⟩

end Route
end Switchyard
