import Switchyard.Proofs.Groups.Serving

/-!
  The groups refine an abstract store.

  1. **Around the callbacks.**  Giving out an id, the decision of the sampler and a dark call change the state, but
     not the groups in it (`KeepsGroups`).

  2. **The step.**  A visit to the external interface is answered by the rules for the groups, with an id on the
     reply, or it is rejected or unmatched, and then the ledger stays (`Serves`).  This is so for every run of one
     visit, from groups that represent a ledger (`serves_of_run`).

  3. **The session.**  By induction on the visits, a session is followed by ledgers, one for each moment between two
     visits, and nothing else happens to the groups (`Follows`, `follows_of_runAll`).

  4. **What follows.**  All else is read off the ledgers: numbers are given out one after the other, a visit that
     fails leaves the ledger as it was, and a group that is gone never comes back.

  The main statement is `groups_refine_a_ledger`, of the application from its beginning.
-/

namespace Switchyard

namespace Route

variable {σ : Type} {fresh : σ → String × σ} {req q : Http.Request} {first : List (Prog.Action σ Job)}
  {id : String}

/-- A request that is identified is as before, but for its headers. -/
theorem Identified.only_headers (h : Identified fresh req first id q) :
    ∃ headers, q = { req with headers := headers } := by
  cases h with
  | own h => exact ⟨req.headers, rfl⟩
  | fresh s h => exact ⟨_, rfl⟩

end Route

namespace App

open Route Groups

/-! ## What goes on around the callbacks -/

/-- The actions leave the groups alone. -/
def KeepsGroups (acts : List (Prog.Action State Job)) : Prop :=
  ∀ {s s' : State}, Prog.Threads s acts s' → s'.groups = s.groups

theorem keepsGroups_nil : KeepsGroups [] := fun hthreads => congrArg State.groups hthreads.symm

theorem keepsGroups_first {ids : Nat → String} {req q : Http.Request} {first : List (Prog.Action State Job)}
    {id : String} (h : Identified (State.freshId ids) req first id q) : KeepsGroups first := by
  intro s s' hthreads
  cases h with
  | own h => exact keepsGroups_nil hthreads
  | fresh s₀ h =>
    obtain ⟨rfl, rfl⟩ := hthreads
    rfl

/-- A decision of the sampler may draw a random number. -/
theorem keepsGroups_decision {rate : Float} {q : Http.Request} {decision : List (Prog.Action State Job)}
    {sampled : Bool}
    (h : Prog.Run ((Dark.Sampler.ratio State.draw rate).accepts q) decision (some sampled)) :
    KeepsGroups decision := by
  intro s s' hthreads
  rw [Dark.Sampler.ratio] at h
  split at h
  · split at h
    · obtain ⟨-, rfl⟩ := Prog.run_update h hthreads
      rfl
    · obtain ⟨-, rfl⟩ := Prog.run_over h hthreads
      rfl
  · obtain ⟨-, rfl⟩ := Prog.run_over h hthreads
    rfl

theorem keepsGroups_around (settings : Dark.Settings State Http.Request) (sampled : Bool)
    (copy : Http.Request) : KeepsGroups (settings.around sampled copy).1 ∧
      KeepsGroups (settings.around sampled copy).2 := by
  have hissuing : KeepsGroups (settings.issuing copy) := fun hthreads => congrArg State.groups hthreads.symm
  cases sampled with
  | false => exact ⟨keepsGroups_nil, keepsGroups_nil⟩
  | true =>
    simp only [Dark.Settings.around]
    cases settings.afterService with
    | true => exact ⟨keepsGroups_nil, hissuing⟩
    | false => exact ⟨hissuing, keepsGroups_nil⟩

theorem KeepsGroups.append {acts acts' : List (Prog.Action State Job)} (h : KeepsGroups acts)
    (h' : KeepsGroups acts') : KeepsGroups (acts ++ acts') := by
  intro s s' hthreads
  obtain ⟨s₁, hfirst, hsecond⟩ := Prog.threads_append_iff.mp hthreads
  exact (h' hsecond).trans (h hfirst)

/-! ## A visit -/

/-- A visit to the external interface is answered, and this is the ledger that comes after. -/
inductive Serves (limit : Nat) (l : Ledger) (v : Visit) : Http.Response → Ledger → Prop where
  /-- The groups reply, and the reply has an id. -/
  | replied {body : Bytes} {id : String} {rep : Http.Response} {l' : Ledger}
      (hbody : Http.gather limit v.chunks = .ok body)
      (h : l.Replies v.head.method v.head.target.path body rep l') :
      Serves limit l v (withRequestId id rep) l'
  /-- The visit has nothing to do with the groups. -/
  | unmatched {body : Bytes} (hbody : Http.gather limit v.chunks = .ok body)
      (h : ∀ rep l', ¬ l.Replies v.head.method v.head.target.path body rep l') :
      Serves limit l v (.error 404 (DispatchError.routeNotFound v.head.method v.head.target.path).message) l
  /-- The body is too long or unreadable. -/
  | rejected {e : String} (hbody : Http.gather limit v.chunks = .error e) :
      Serves limit l v (.error 413 "request body too large or unreadable") l

/-- The visit creates a group. -/
def Visit.creates (limit : Nat) (v : Visit) : Bool :=
  v.head.method = "POST" && v.head.target.path = "/groups/" &&
    match Http.gather limit v.chunks with
    | .ok body => (createShape.read body).isOk
    | .error _ => false

theorem Visit.creates_of_decodes {limit : Nat} {v : Visit} {body : Bytes} (hmethod : v.head.method = "POST")
    (hpath : v.head.target.path = "/groups/") (hbody : Http.gather limit v.chunks = .ok body)
    (hdecodes : (createShape.read body).isOk = true) : v.creates limit = true := by
  rw [Visit.creates, hmethod, hpath, hbody]
  exact hdecodes

namespace Serves

variable {limit : Nat} {l l' : Ledger} {v : Visit} {rep : Http.Response}

theorem precedes (h : Serves limit l v rep l') : l.Precedes l' := by
  cases h with
  | unmatched => exact .refl l
  | rejected => exact .refl l
  | replied hbody h =>
    cases h with
    | created => exact l.precedes_add _
    | removed => exact l.precedes_remove _
    | _ => exact .refl l

/-- **Only what is answered as created is counted.** -/
theorem created (h : Serves limit l v rep l') :
    l'.created = l.created + if rep.status = 201 then 1 else 0 := by
  cases h with
  | unmatched => rfl
  | rejected => rfl
  | replied hbody h =>
    cases h with
    | _ => rfl

/-- **A visit that fails leaves the ledger as it was.** -/
theorem failed (h : Serves limit l v rep l') (hstatus : 400 ≤ rep.status) : l' = l := by
  cases h with
  | unmatched => rfl
  | rejected => rfl
  | replied hbody h =>
    cases h with
    | created => exact absurd hstatus (show ¬ 400 ≤ 201 by decide)
    | removed => exact absurd hstatus (show ¬ 400 ≤ 204 by decide)
    | _ => rfl

theorem creates (h : Serves limit l v rep l') (hstatus : rep.status = 201) : v.creates limit = true := by
  cases h with
  | unmatched => cases hstatus
  | rejected => cases hstatus
  | replied hbody h =>
    cases h with
    | created hmethod hpath hread =>
      exact Visit.creates_of_decodes hmethod hpath hbody (hread ▸ rfl)
    | _ => cases hstatus

end Serves

section

variable {c : Config} {n : Dark.Network} {ids : Nat → String} {app : Built} {dark : Dark.Setup State}

/-- What stands around a run of a callback leaves the groups alone. -/
theorem Mirrored.keepsGroups (hsetup : Dark.Setup.ofConfig State.draw n darkId c.darkTraffic = .ok dark)
    {r : Route State} {q : Http.Request} {before after : List (Prog.Action State Job)}
    (h : Mirrored dark r q before after) : KeepsGroups before ∧ KeepsGroups after := by
  cases h with
  | page hr => exact ⟨keepsGroups_nil, keepsGroups_nil⟩
  | off hr hsettings => exact ⟨keepsGroups_nil, keepsGroups_nil⟩
  | @on hr settings hsettings sampled decision hsampled =>
    rw [Dark.Setup.sampler_of_settings? hsetup hsettings] at hsampled
    have hdecision : KeepsGroups (Prog.essence decision) := fun hthreads =>
      keepsGroups_decision hsampled (Prog.threads_essence_iff.mp hthreads)
    obtain ⟨hbefore, hafter⟩ := keepsGroups_around settings sampled q.darkCopy
    exact ⟨hdecision.append hbefore, hafter⟩

/-- **The step.**  From groups that represent a ledger, a run of a visit to the external interface is served
    by the rules, and then the groups represent the ledger that comes after. -/
theorem serves_of_run
    (htable : app.router.table.routes = compiled mapping (registered [] (accepted (history ids dark))))
    (hsetup : Dark.Setup.ofConfig State.draw n darkId c.darkTraffic = .ok dark) {v : Visit}
    (hexternal : v.interface = .external) {acts : List (Prog.Action State Job)} {rep : Http.Response}
    (hrun : Prog.Run (app.visit c v).1 acts (some rep)) {s s' : State} (hthreads : Prog.Threads s acts s')
    {l : Ledger} (h : Represents s.groups l)
    (hfew : v.creates c.server.maxBodyBytes = true → l.created + 1 < 2 ^ 64) :
    ∃ l', Serves c.server.maxBodyBytes l v rep l' ∧ Represents s'.groups l' := by
  have hessence := Prog.threads_essence_iff.mpr hthreads
  cases handled_of_run htable hrun with
  | rejected hbody hrep hacts =>
    rw [hacts] at hessence
    obtain rfl : s = s' := hessence
    exact ⟨l, hrep ▸ .rejected hbody, h⟩
  | unmatched hbody hroutes hrep hacts =>
    rw [hacts] at hessence
    obtain rfl : s = s' := hessence
    have hnone := not_replies_of_unanswered (hexternal ▸ hroutes) l
    exact ⟨l, hrep ▸ .unmatched hbody (hnone _), h⟩
  | @served body r params hbody hroute hserved =>
    obtain ⟨first, id, q, before, inner, after, outcome, hid, hmirrored, hcallback, rfl, hacts⟩ := hserved
    have hgroup : r ∈ groupRoutes := by
      cases hmirrored with
      | off hr hsettings => exact hr
      | on hr hsettings hsampled => exact hr
      | page hr =>
        have hadmin : v.interface = .admin := hroute.interface.mp (admin_of_mem_pages hr)
        cases hexternal.symm.trans hadmin
    -- the states between the parts of the run
    rw [hacts] at hessence
    obtain ⟨s₁, hfirst, hrest⟩ := Prog.threads_append_iff.mp hessence
    obtain ⟨s₃, hrest, hafter⟩ := Prog.threads_append_iff.mp hrest
    obtain ⟨s₂, hbefore, hinner⟩ := Prog.threads_append_iff.mp hrest
    obtain ⟨hkeepsBefore, hkeepsAfter⟩ := hmirrored.keepsGroups hsetup
    have hthere : Represents s₂.groups l := by
      rw [hkeepsBefore hbefore, keepsGroups_first hid hfirst]
      exact h
    obtain ⟨headers, rfl⟩ := hid.only_headers
    have hcreates : v.head.method = "POST" → v.head.target.path = "/groups/" → (createShape.read body).isOk →
        l.created + 1 < 2 ^ 64 :=
      fun hmethod hpath hdecodes => hfew (Visit.creates_of_decodes hmethod hpath hbody hdecodes)
    obtain ⟨l', hreplies, hrepresents⟩ := replies_of_run
      (q := { ({ v.head with body := body }.enter r params) with headers := headers })
      hgroup hroute rfl hthere hcreates hcallback (Prog.threads_essence_iff.mp hinner)
    refine ⟨l', .replied hbody hreplies, ?_⟩
    rw [hkeepsAfter hafter]
    exact hrepresents

end

/-! ## Sessions -/

/-- A session is followed by ledgers: one before the first visit, and one after each. -/
structure Follows (limit : Nat) (visits : List Visit) (reps : List Http.Response) (trace : Nat → Ledger) :
    Prop where
  length : reps.length = visits.length
  serves {i : Nat} {v : Visit} {rep : Http.Response} : visits[i]? = some v → reps[i]? = some rep →
    Serves limit (trace i) v rep (trace (i + 1))
  /-- After the last visit nothing happens any more. -/
  idle {i : Nat} : visits.length ≤ i → trace (i + 1) = trace i

/-- A ledger before others. -/
def followedBy (l : Ledger) (trace : Nat → Ledger) : Nat → Ledger
  | 0 => l
  | i + 1 => trace i

namespace Follows

variable {limit : Nat} {visits : List Visit} {reps : List Http.Response} {trace : Nat → Ledger}

theorem nil (l : Ledger) : Follows limit [] [] fun _ => l := ⟨rfl, nofun, fun _ => rfl⟩

theorem cons (h : Follows limit visits reps trace) {l : Ledger} {v : Visit} {rep : Http.Response}
    (hfirst : Serves limit l v rep (trace 0)) :
    Follows limit (v :: visits) (rep :: reps) (followedBy l trace) where
  length := congrArg (· + 1) h.length
  serves {i v' rep'} hv hrep := by
    cases i with
    | zero =>
      obtain rfl := Option.some.inj hv
      obtain rfl := Option.some.inj hrep
      exact hfirst
    | succ i => exact h.serves hv hrep
  idle {i} hi := by
    cases i with
    | zero => cases hi
    | succ i => exact h.idle (Nat.le_of_succ_le_succ hi)

/-- What happens between two moments: a visit is served, or the session is over. -/
theorem step (h : Follows limit visits reps trace) (i : Nat) :
    (∃ v rep, visits[i]? = some v ∧ reps[i]? = some rep ∧ Serves limit (trace i) v rep (trace (i + 1))) ∨
      (reps[i]? = none ∧ trace (i + 1) = trace i) := by
  rcases Nat.lt_or_ge i visits.length with hlt | hge
  · have hlt' : i < reps.length := h.length.symm ▸ hlt
    have hv := List.getElem?_eq_getElem hlt
    have hrep := List.getElem?_eq_getElem hlt'
    exact Or.inl ⟨_, _, hv, hrep, h.serves hv hrep⟩
  · exact Or.inr ⟨List.getElem?_eq_none (h.length.symm ▸ hge), h.idle hge⟩

/-- **Each ledger on the way precedes all later ones.** -/
theorem precedes (h : Follows limit visits reps trace) {i j : Nat} (hij : i ≤ j) :
    (trace i).Precedes (trace j) := by
  induction hij with
  | refl => exact .refl _
  | @step j _ ih =>
    rcases h.step j with ⟨v, rep, -, -, hserves⟩ | ⟨-, hsame⟩
    · exact ih.trans hserves.precedes
    · rw [hsame]
      exact ih

/-- **The counter counts what was answered as created.** -/
theorem created (h : Follows limit visits reps trace) (i : Nat) :
    (trace i).created = (trace 0).created + (reps.take i).countP fun rep => rep.status = 201 := by
  induction i with
  | zero => rfl
  | succ i ih =>
    rcases h.step i with ⟨v, rep, -, hrep, hserves⟩ | ⟨hnone, hsame⟩
    · rw [hserves.created, ih, List.take_add_one, hrep, List.countP_append, Option.toList_some,
        List.countP_singleton, Nat.add_assoc]
      simp only [decide_eq_true_eq]
    · rw [hsame, ih, List.take_add_one, hnone, Option.toList_none, List.append_nil]

/-- **A visit that fails leaves the ledger as it was.** -/
theorem failed (h : Follows limit visits reps trace) {i : Nat} {rep : Http.Response}
    (hrep : reps[i]? = some rep) (hstatus : 400 ≤ rep.status) : trace (i + 1) = trace i := by
  rcases h.step i with ⟨v, rep', -, hrep', hserves⟩ | ⟨-, hsame⟩
  · obtain rfl := Option.some.inj (hrep.symm.trans hrep')
    exact hserves.failed hstatus
  · exact hsame

end Follows

section

variable {c : Config} {n : Dark.Network} {ids : Nat → String} {app : Built} {dark : Dark.Setup State}
  {visits : List Visit}

/-- **A whole session**, by induction on the visits; the invariant is that the groups represent the ledger,
    and that there are numbers left for the groups still to be created. -/
theorem follows_of_runAll
    (htable : app.router.table.routes = compiled mapping (registered [] (accepted (history ids dark))))
    (hsetup : Dark.Setup.ofConfig State.draw n darkId c.darkTraffic = .ok dark)
    (hexternal : ∀ v ∈ visits, v.interface = .external) {m : Machine State} {l : Ledger}
    (h : Represents m.state.groups l)
    (hfew : l.created + visits.countP (Visit.creates c.server.maxBodyBytes) < 2 ^ 64) :
    ∃ (reps : List Http.Response) (m' : Machine State) (trace : Nat → Ledger),
      Machine.runAll (visits.map (app.visit c)) m = (reps.map some, m') ∧ trace 0 = l ∧
        Follows c.server.maxBodyBytes visits reps trace ∧
        Represents m'.state.groups (trace visits.length) := by
  induction visits generalizing m l with
  | nil => exact ⟨[], m, fun _ => l, rfl, rfl, .nil l, h⟩
  | cons v visits ih =>
    obtain ⟨hv, hrest⟩ := List.forall_mem_cons.mp hexternal
    -- the visit comes to an end, and is a run; nothing that jobs leave is looked at
    have htame : (app.visit c v).1.Tame (Job.Unseen fun _ => false) :=
      tame_handle htable (fun _ _ _ _ _ => rfl) v.interface v.head v.chunks
    obtain ⟨rep, m₁, hran⟩ := Machine.run_of_ends htame.ends m
    obtain ⟨acts, hrun, hthreads, -⟩ := Machine.run_told htame.starts (fun _ _ _ _ => rfl) hran
    rw [List.countP_cons] at hfew
    obtain ⟨l', hserves, hafter⟩ := serves_of_run htable hsetup hv hrun hthreads h fun hcreates => by
      rw [if_pos hcreates] at hfew
      omega
    have hfew' : l'.created + visits.countP (Visit.creates c.server.maxBodyBytes) < 2 ^ 64 := by
      rw [hserves.created]
      split
      · rename_i hstatus
        rw [if_pos (hserves.creates hstatus)] at hfew
        omega
      · omega
    have hpassed : Represents (m₁.pass v.pause).state.groups l' := by
      rw [Machine.state_pass]
      exact hafter
    obtain ⟨reps, m', trace, hall, rfl, hfollows, hlast⟩ := ih hrest hpassed hfew'
    exact ⟨rep :: reps, m', followedBy l trace, Machine.runAll_cons_of_run hran hall, rfl,
      hfollows.cons hserves, hlast⟩

/-- **The groups refine an abstract store.**  In every session with the external interface in which fewer
    than `2 ^ 64` groups are created, every visit is served by the rules from the ledger before it, which
    leads to the one after it, and the ledger at the end is what the groups represent.  So a new group has the
    number after those of all groups created before; what fails changes nothing; exactly the groups that are
    there are listed, in strictly increasing order; and a group that is gone never comes back. -/
theorem groups_refine_a_ledger (hbuild : buildWith ids c n = .ok app)
    (hexternal : ∀ v ∈ visits, v.interface = .external)
    (hfew : visits.countP (Visit.creates c.server.maxBodyBytes) < 2 ^ 64) {m : Machine State}
    (hgroups : m.state.groups = app.state.groups) :
    ∃ (reps : List Http.Response) (m' : Machine State) (trace : Nat → Ledger),
      Machine.runAll (visits.map (app.visit c)) m = (reps.map some, m') ∧
      trace 0 = {} ∧ Follows c.server.maxBodyBytes visits reps trace ∧
      Represents m'.state.groups (trace visits.length) ∧
      (∀ i, (trace i).created = (reps.take i).countP fun rep => rep.status = 201) ∧
      (∀ i rep, reps[i]? = some rep → 400 ≤ rep.status → trace (i + 1) = trace i) ∧
      (∀ i, ((trace i).listing.map Prod.fst).Pairwise (· < ·) ∧
        ∀ id name, (id, name) ∈ (trace i).listing ↔ (trace i).name? id = some name) ∧
      ∀ i j id, i ≤ j → id ≤ (trace i).created → (trace i).name? id = none → (trace j).name? id = none := by
  obtain ⟨dark, hsetup, htable, hstate⟩ := router_of_build hbuild
  have hbegin : Represents m.state.groups {} := by
    rw [hgroups, hstate]
    exact represents_empty
  have hroom : ({} : Ledger).created + visits.countP (Visit.creates c.server.maxBodyBytes) < 2 ^ 64 := by
    rw [Nat.zero_add]
    exact hfew
  obtain ⟨reps, m', trace, hrun, hstart, hfollows, hlast⟩ :=
    follows_of_runAll htable hsetup hexternal hbegin hroom
  refine ⟨reps, m', trace, hrun, hstart, hfollows, hlast, fun i => ?_, fun i rep => hfollows.failed,
    fun i => ⟨(trace i).increasing_listing, fun id name => Ledger.mem_listing⟩,
    fun i j id hij hid => (hfollows.precedes hij).gone hid⟩
  rw [hfollows.created, hstart, Nat.zero_add]

end

/-- A group is created, looked at, removed and looked at again, in an application without dark traffic. -/
theorem groups_refine_a_ledger_once :
    let visits : List Visit :=
      [{ head := { method := "POST", target := { path := "/groups/" } }
         chunks := [.ok (Bytes.ofString "[\"blue\"]")] },
       { head := { target := { path := "/groups/+01" } }, pause := 7 },
       { head := { method := "DELETE", target := { path := "/groups/1" } } },
       { head := { target := { path := "/groups/1" } } }]
    ∃ (app : Built) (reps : List Http.Response) (m' : Machine State) (trace : Nat → Ledger),
      build {} .isolated = .ok app ∧
      Machine.runAll (visits.map (app.visit {})) ⟨app.state, [], []⟩ = (reps.map some, m') ∧
      reps.map (·.status) = [201, 200, 204, 404] ∧
      Follows (1024 * 1024) visits reps trace ∧ Represents m'.state.groups (trace 4) := by
  intro visits
  obtain ⟨app, hbuild⟩ : ∃ app, build {} .isolated = .ok app := ⟨_, rfl⟩
  have hexternal : ∀ v ∈ visits, v.interface = .external := by
    simp [visits]
  have hfew : visits.countP (Visit.creates (1024 * 1024)) < 2 ^ 64 :=
    Nat.lt_of_le_of_lt List.countP_le_length (show 4 < 2 ^ 64 by decide)
  obtain ⟨reps, m', trace, hrun, -, hfollows, hlast, -⟩ :=
    groups_refine_a_ledger hbuild hexternal hfew (m := ⟨app.state, [], []⟩) rfl
  have hstatuses : (match build {} .isolated with
      | .ok app => (Machine.runAll (visits.map (app.visit {})) ⟨app.state, [], []⟩).1.map (·.map (·.status))
      | .error _ => []) = [201, 200, 204, 404].map some := by decide +kernel
  rw [hbuild] at hstatuses
  dsimp only at hstatuses
  rw [hrun, List.map_map] at hstatuses
  have hall : (reps.map (·.status)).map some = [201, 200, 204, 404].map some := by
    rw [List.map_map]
    exact hstatuses
  exact ⟨app, reps, m', trace, hbuild, hrun, List.map_inj_right (fun _ _ => Option.some.inj) |>.mp hall,
    hfollows, hlast⟩

end App
end Switchyard
