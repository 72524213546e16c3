import Switchyard.Proofs.App.Visits
import Switchyard.Proofs.Dark.Conservation
import Switchyard.Proofs.Dark.Delivery

/-!
  Which requests are mirrored.

  Of the actions of a request those concern dark traffic that start a job or count a dark call
  (`Prog.mirroring`).  A request to the groups shows those of issuing one call if the sampler accepts it and
  none if not, and any other request shows none (`Scoped`).  That is read off what a run of a service consists
  of (`Handled`): of its parts, giving out an id, deciding, and the callbacks start no job and count nothing,
  so what is left is the dark traffic filter's own, and this filter stands in front of the groups only.

  The job that is started gives the copy to the client (`Dark.Call.MadeBy`).  The copy has the id that is on
  the response: the filter that gives ids stands in front of the one that copies.  Ids are generated outside of
  the application, and nothing is known of them but that they are texts of UUIDs.

  * `scoped_of_run`             — so it is in every run of a service, whatever goes on beside it;
  * `only_groups_are_mirrored`  — and with every request of a session, whatever comes in, and whatever the
    random numbers.
-/

namespace Switchyard

/-! ## Actions of dark traffic -/

/-- Does the entry say that a dark call was issued? -/
def Observation.isIssue : Observation → Bool
  | darkIssued _ | metric .darkIssued => true
  | _ => false

namespace Prog

variable {σ δ α : Type}

/-- The action starts a job, or counts a dark call. -/
def Action.mirrors : Action σ δ → Bool
  | launched _ => true
  | noted o => o.isDark
  | changed .. | lookedBack _ | waited _ => false

/-- The actions that concern dark traffic, in order. -/
def mirroring (acts : List (Action σ δ)) : List (Action σ δ) := acts.filter Action.mirrors

theorem mirroring_append (acts acts' : List (Action σ δ)) :
    mirroring (acts ++ acts') = mirroring acts ++ mirroring acts' := List.filter_append ..

/-- What concerns dark traffic matters. -/
theorem mirroring_essence (acts : List (Action σ δ)) : mirroring (essence acts) = mirroring acts := by
  rw [mirroring, essence, List.filter_filter, mirroring]
  refine List.filter_congr fun act _ => ?_
  cases act with
  | noted o => exact Bool.and_self _
  | _ => rfl

/-- A plain program does nothing about dark traffic. -/
theorem mirroring_of_plain {p : Prog σ δ Empty Empty α} (hp : p.Plain) {acts : List (Action σ δ)}
    {r : Option α} (h : Run p acts r) : mirroring (essence acts) = [] := by
  rw [mirroring_essence]
  refine List.filter_eq_nil_iff.mpr fun act hact => ?_
  have hplain := hp.of_run h act hact
  cases act with
  | noted o => cases hplain
  | launched job => cases hplain
  | _ => exact Bool.false_ne_true

/-- Actions that do nothing about dark traffic leave the counters of all filters as they were. -/
theorem counts_of_mirroring_eq_nil {acts : List (Action σ δ)} (h : mirroring acts = []) (f : DarkId)
    (record : List Observation) :
    Dark.Counts.ofRecord f (record ++ entries acts) = Dark.Counts.ofRecord f record := by
  have hnone : (entries acts).filter Observation.isDark = [] := by
    refine List.filter_eq_nil_iff.mpr fun o ho => ?_
    exact List.filter_eq_nil_iff.mp h _ (mem_entries.mp ho)
  rw [Dark.Counts.ofRecord_append, hnone]
  rfl

end Prog

/-! ## The network -/

namespace Dark

/-- The network leaves the counting of dark calls alone. -/
def Network.Quiet (n : Network) : Prop :=
  ∀ req o, (n.exchange req).Leaves (fun e _ => nomatch e) o → o.isDark = false

/-- Once it is issued, a call over a quiet network leaves no entry that says that one was issued. -/
theorem Settings.unseen_dark {n : Network} (hn : n.Quiet) {s : Settings App.State Http.Request}
    {client : HttpClient} (hclient : s.client = client.client n) (copy : Http.Request) :
    Job.Unseen Observation.isIssue ⟨s.id, s.dark copy⟩ := by
  intro o hleaves
  rcases Prog.leaves_of_bind hleaves with hsent | ⟨result, hfinish⟩
  · have hsent := Prog.leaves_of_within hsent
    rw [hclient] at hsent
    replace hsent : (client.send n copy).Leaves (fun e _ => nomatch e) o := hsent
    rw [HttpClient.send] at hsent
    cases hretarget : client.retarget copy with
    | error e =>
      rw [hretarget] at hsent
      cases hsent
    | ok req =>
      rw [hretarget] at hsent
      rcases Prog.leaves_of_bind hsent with hexchange | ⟨answer, hdone⟩
      · have hdark := hn req o hexchange
        cases o with
        | darkIssued f => cases hdark
        | metric m =>
          cases m with
          | darkIssued => cases hdark
          | _ => rfl
        | _ => rfl
      · cases hdone
  · rcases List.mem_append.mp (Prog.mem_of_leaves_observeAll hfinish) with hevent | hend
    · obtain ⟨e, -, rfl⟩ := List.mem_map.mp hevent
      rfl
    · rcases List.mem_cons.mp hend with rfl | hend
      · rfl
      · obtain rfl := List.mem_singleton.mp hend
        rfl

end Dark

namespace App

open Route

/-! ## The scope of mirroring -/

/-- A request shows nothing of dark traffic: it starts no job, and whatever was recorded before, it leaves
    the counters of all filters as they were. -/
structure Untouched (acts : List (Prog.Action State Job)) : Prop where
  mirroring : Prog.mirroring acts = []
  counts (f : DarkId) (record : List Observation) :
    Dark.Counts.ofRecord f (record ++ Prog.entries acts) = Dark.Counts.ofRecord f record

theorem untouched_of_mirroring {acts : List (Prog.Action State Job)}
    (h : Prog.mirroring (Prog.essence acts) = []) : Untouched acts := by
  rw [Prog.mirroring_essence] at h
  exact ⟨h, Prog.counts_of_mirroring_eq_nil h⟩

theorem untouched_of_nothing {acts : List (Prog.Action State Job)} (h : Prog.essence acts = []) :
    Untouched acts := by
  refine untouched_of_mirroring ?_
  rw [h]
  rfl

/-- What a visit shows of dark traffic, by the way that it takes. -/
inductive Scoped (ids : Nat → String) (settings : Dark.Settings State Http.Request) (limit : Nat) (v : Visit)
    (acts : List (Prog.Action State Job)) (rep : Http.Response) : Prop where
  /-- The body is too long or unreadable. -/
  | rejected {e : String} (hbody : Http.gather limit v.chunks = .error e) (hstatus : rep.status = 413)
      (hacts : Untouched acts)
  /-- No route answers. -/
  | unmatched (hroutes : Unanswered (pages (some settings.id) ++ groupRoutes) v.interface v.head.method
      v.head.target.path) (hstatus : rep.status = 404) (hacts : Untouched acts)
  /-- A page of the admin interface answers. -/
  | page {r : Route State} {params : Params} (hadmin : v.interface = .admin)
      (hr : r ∈ pages (some settings.id))
      (hroute : r.Answers v.interface v.head.method v.head.target.path params) (hacts : Untouched acts)
  /-- A route of the groups answers: it is identified, the sampler decides, and the callback is run, to
      whatever outcome.  One call is issued if the sampler accepts the request, and the job that is started for
      it gives the copy to the client. -/
  | group {body : Bytes} {r : Route State} {params : Params} {id : String} {q : Http.Request}
      {first decision inner : List (Prog.Action State Job)} {sampled : Bool}
      {outcome : Outcome Http.Response}
      (hexternal : v.interface = .external) (hbody : Http.gather limit v.chunks = .ok body)
      (hr : r ∈ groupRoutes) (hroute : r.Answers v.interface v.head.method v.head.target.path params)
      (hid : Identified (State.freshId ids) ({ v.head with body := body }.enter r params) first id q)
      (hsampled : Prog.Run (settings.sampler.accepts q) decision (some sampled))
      (hcallback : Prog.Run (r.callback q) inner (some outcome))
      (hacts : Prog.essence acts = first ++ (Prog.essence decision ++
        (settings.around sampled q.darkCopy).1 ++ Prog.essence inner ++
          (settings.around sampled q.darkCopy).2))
      (hmirroring : Prog.mirroring acts = if sampled then settings.issuing q.darkCopy else [])
      (hcalls : ∀ job, .launched job ∈ acts → Dark.Call.MadeBy ⟨settings, q.darkCopy⟩ job)
      (hreply : rep = withRequestId id (Filter.replyTo mapping outcome))
      (hcopy : q.darkCopy.requestId? = some id)
      (hrep : (rep.headers.getAll Http.requestIdHeader).map Http.headerText? = [some id]) :
      Scoped ids settings limit v acts rep

theorem mirroring_first {ids : Nat → String} {req q : Http.Request} {first : List (Prog.Action State Job)}
    {id : String} (h : Identified (State.freshId ids) req first id q) : Prog.mirroring first = [] := by
  cases h with
  | own h => rfl
  | fresh s h => rfl

theorem mirroring_around (settings : Dark.Settings State Http.Request) (sampled : Bool)
    (copy : Http.Request) :
    Prog.mirroring (settings.around sampled copy).1 ++ Prog.mirroring (settings.around sampled copy).2
      = if sampled then settings.issuing copy else [] := by
  cases sampled with
  | false => rfl
  | true =>
    cases hafter : settings.afterService with
    | true =>
      simp only [Dark.Settings.around, hafter]
      rfl
    | false =>
      simp only [Dark.Settings.around, hafter]
      rfl

/-- The jobs that a request starts are seen in what it shows of dark traffic. -/
theorem madeBy_of_launched {settings : Dark.Settings State Http.Request} {sampled : Bool} {copy : Http.Request}
    {acts : List (Prog.Action State Job)}
    (hmirroring : Prog.mirroring acts = if sampled then settings.issuing copy else []) {job : Job}
    (hjob : .launched job ∈ acts) : Dark.Call.MadeBy ⟨settings, copy⟩ job := by
  have hshown : .launched job ∈ Prog.mirroring acts := List.mem_filter.mpr ⟨hjob, rfl⟩
  rw [hmirroring] at hshown
  cases sampled with
  | false => cases hshown
  | true =>
    rcases List.mem_cons.mp hshown with heq | hshown
    · cases heq
    rcases List.mem_cons.mp hshown with heq | hshown
    · cases heq
    obtain rfl := Prog.Action.launched.inj (List.mem_singleton.mp hshown)
    exact Dark.Call.madeBy_dark ⟨settings, copy⟩

section

variable {ids : Nat → String} (hids : ∀ k, ∀ ch ∈ (ids k).toList, Http.IsUuidChar ch) {c : Config}
  {n : Dark.Network} {app : Built} {dark : Dark.Setup State} {settings : Dark.Settings State Http.Request}
include hids

/-- **In every run of a service, a request is mirrored only if it is for the groups**, and then once if the
    sampler accepts it. -/
theorem scoped_of_run
    (htable : app.router.table.routes = compiled mapping (registered [] (accepted (history ids dark))))
    (hsettings : dark.settings? = some settings) {v : Visit} {acts : List (Prog.Action State Job)}
    {rep : Http.Response} (hrun : Prog.Run (app.visit c v).1 acts (some rep)) :
    Scoped ids settings c.server.maxBodyBytes v acts rep := by
  have hdarkId : darkId? dark = some settings.id := by rw [darkId?, hsettings]; rfl
  cases handled_of_run htable hrun with
  | rejected hbody hrep hacts =>
    exact .rejected hbody (hrep ▸ rfl) (untouched_of_nothing hacts)
  | unmatched hbody hroutes hrep hacts =>
    exact .unmatched (hdarkId ▸ hroutes) (hrep ▸ rfl) (untouched_of_nothing hacts)
  | @served body r params hbody hroute hserved =>
    obtain ⟨first, id, q, before, inner, after, outcome, hid, hmirrored, hcallback, rfl, hacts⟩ := hserved
    have hfirst := mirroring_first hid
    cases hmirrored with
    | page hr =>
      have hcallbackQuiet := Prog.mirroring_of_plain (plain_callback (List.mem_append_left _ hr)) hcallback
      refine .page (hroute.interface.mp (admin_of_mem_pages hr)) (hdarkId ▸ hr) hroute
        (untouched_of_mirroring ?_)
      rw [hacts, Prog.mirroring_append, Prog.mirroring_append, Prog.mirroring_append, hfirst, hcallbackQuiet]
      rfl
    | off hr hnone => cases hsettings.symm.trans hnone
    | @on hr settings' hsettings' sampled decision hsampled =>
      obtain rfl : settings' = settings := Option.some.inj (hsettings'.symm.trans hsettings)
      have hmem : r ∈ pages (darkId? dark) ++ groupRoutes := List.mem_append_right _ hr
      have hcallbackQuiet := Prog.mirroring_of_plain (plain_callback hmem) hcallback
      have hdecisionQuiet := Prog.mirroring_of_plain (settings'.sampler.plain_accepts q) hsampled
      have hfresh : ∀ s, ∀ ch ∈ (State.freshId ids s).1.toList, Http.Readable ch :=
        fun s ch hch => (hids s.issued ch hch).readable
      have hreadable := hid.readable hfresh
      have hexternal : v.interface = .external := by
        cases hi : v.interface with
        | external => rfl
        | admin =>
          have hadmin := hroute.interface.mpr hi
          rw [admin_of_mem_groupRoutes hr] at hadmin
          cases hadmin
      have hmirroring : Prog.mirroring acts = if sampled then settings'.issuing q.darkCopy else [] := by
        rw [← Prog.mirroring_essence, hacts]
        simp only [Prog.mirroring_append, hfirst, hcallbackQuiet, hdecisionQuiet, List.nil_append,
          List.append_nil]
        exact mirroring_around settings' sampled q.darkCopy
      refine .group hexternal hbody hr hroute hid hsampled hcallback hacts hmirroring
        (fun job hjob => madeBy_of_launched hmirroring hjob) rfl (hid.requestId? hfresh) ?_
      rw [getAll_withRequestId hreadable, List.map_singleton]
      exact congrArg ([·]) (Http.headerText?_eq_some_iff.mpr ⟨rfl, hreadable⟩)

/-- **Only requests to the groups are mirrored.**  Generated ids are the texts of UUIDs.  In every session with
    an application that sends copies, whatever requests come in on either interface and whatever the random
    numbers, a dark call is issued only for a request on the external interface that a route of the groups
    answers: one if the sampler accepts the request, and none if it does not.  Its job gives the copy to a
    client for the destination that is configured.  Pages, requests that no route answers and bodies that are
    too long leave the counters alone.  A copy has the id that is on the response to its request. -/
theorem only_groups_are_mirrored (hbuild : buildWith ids c n = .ok app) {destination : String}
    (hdestination : c.darkTraffic.destination? = some destination) (hnetwork : n.Quiet) :
    ∃ dark settings client, Dark.Setup.ofConfig State.draw n darkId c.darkTraffic = .ok dark ∧
      dark.settings? = some settings ∧
      Dark.HttpClient.make destination c.darkTraffic.clientId c.darkTraffic.muxEnabled = .ok client ∧
      settings.client = client.client n ∧ settings.timeoutMs = c.darkTraffic.timeoutMs ∧
      ∀ (visits : List Visit) (m : Machine State), m.jobs = [] →
        ∃ (told : List (List (Prog.Action State Job) × Http.Response)) (m' : Machine State),
          Machine.runAll (visits.map (app.visit c)) m = (told.map fun t => some t.2, m') ∧
          List.Forall₂ (fun v t => Scoped ids settings c.server.maxBodyBytes v t.1 t.2) visits told ∧
          m'.record.filter Observation.isIssue = m.record.filter Observation.isIssue ++
            (told.flatMap fun t => Prog.entries t.1).filter Observation.isIssue := by
  obtain ⟨dark, hsetup, htable, -⟩ := router_of_build hbuild
  obtain ⟨client, hclient, hsettings⟩ := Dark.Setup.settings?_of_destination hsetup hdestination
  refine ⟨dark, _, client, hsetup, hsettings, hclient, rfl, rfl, fun visits m hjobs => ?_⟩
  have htame : ∀ p ∈ visits.map (app.visit c), p.1.Tame (Job.Unseen Observation.isIssue) :=
    List.forall_mem_map.mpr fun v _ => tame_handle htable (fun settings' hsettings' copy => by
      obtain rfl := Option.some.inj (hsettings'.symm.trans hsettings)
      exact Dark.Settings.unseen_dark hnetwork (show _ = client.client n from rfl) copy) v.interface v.head v.chunks
  have hquiet : m.Quiet Observation.isIssue := fun p hp => by
    rw [hjobs] at hp
    cases hp
  obtain ⟨reps, m', hrun⟩ := Machine.runAll_of_ends (fun p hp => (htame p hp).ends) m
  obtain ⟨told, rfl, hruns, htells⟩ := Machine.runAll_told (fun p hp => (htame p hp).starts) hquiet hrun
  refine ⟨told, m', ?_, ?_, htells.record⟩
  · rw [hrun, List.map_map]
    rfl
  · exact (List.forall₂_map_left_iff.mp hruns).imp fun v t h => scoped_of_run hids htable hsettings h

end

/-- An application that sends copies to an endpoint of its own host: a request to the groups, and one to an
    admin page. -/
theorem only_groups_are_mirrored_loopback :
    let c : Config := { darkTraffic := { destination? := some "[::1]:9000", sampleRate := 0.5 } }
    let visits : List Visit :=
      [{ head := { target := { path := "/groups/" } }, pause := 5 },
       { interface := .admin, head := { target := { path := "/admin/routes" } } }]
    ∃ (app : Built) (settings : Dark.Settings State Http.Request)
      (told : List (List (Prog.Action State Job) × Http.Response)) (m' : Machine State),
      (∀ k, ∀ ch ∈ (Http.nthRequestId k).toList, Http.IsUuidChar ch) ∧
      build c .isolated = .ok app ∧
      Machine.runAll (visits.map (app.visit c)) ⟨app.state, [], []⟩ = (told.map fun t => some t.2, m') ∧
      List.Forall₂ (fun v t => Scoped Http.nthRequestId settings c.server.maxBodyBytes v t.1 t.2) visits
        told := by
  intro c visits
  have hids : ∀ k, ∀ ch ∈ (Http.nthRequestId k).toList, Http.IsUuidChar ch := Http.isUuidChar_nthRequestId
  obtain ⟨app, hbuild⟩ : ∃ app, build c .isolated = .ok app := ⟨_, rfl⟩
  have hnetwork : Dark.Network.isolated.Quiet := fun req o h => nomatch h
  obtain ⟨dark, settings, client, -, -, -, -, -, hsessions⟩ :=
    only_groups_are_mirrored hids hbuild rfl hnetwork
  obtain ⟨told, m', hrun, hscoped, -⟩ := hsessions visits ⟨app.state, [], []⟩ rfl
  exact ⟨app, settings, told, m', hids, hbuild, hrun, hscoped⟩

end App
end Switchyard
