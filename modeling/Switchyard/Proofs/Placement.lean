import Switchyard.Proofs.Route.Dispatch
import Switchyard.Proofs.Rpc.Lifecycle
import Switchyard.Route.Filters

/-!
  It does not matter where mappers are registered.

  1. **What is placed.**  Filters, routes and controllers come behind what was there when they came: they are
     placed (`BuildCall.isPlacing`).  Mappers are not: a call that registers one adds nothing to the others
     (`BuildCall.adds_nothing`).

  2. **What registrations come to.**  Freezing looks at what they have come to in the end: for every kind the last
     one counts, and so it does for the default mapper (`Registration.SameLast`).  Two lists that come to the same
     give the nearest mapper alike, and so one stage that maps failures (`mapFailures_of_sameLast`).

  3. **Whole routers.**  That stage stands in front of every callback and in front of all global filters, on every
     route, also on those that were added before the mapper.  So a frozen router is told by what was placed, in its
     order, and by what was registered last (`router_of_samePlacement`).

  The main statement is `mappers_are_position_independent`, for both kinds of routers.
-/

namespace Switchyard

/-! ## What registrations come to -/

/-- Two sequences of registrations come to the same: the same last mapper for every kind, and the same last
    mapper for all other failures. -/
structure Registration.SameLast {Rep : Type} (regs regs' : List (Registration Rep)) : Prop where
  kinds (k : Kind) : lastFor? regs k = lastFor? regs' k
  default : lastDefault? regs = lastDefault? regs'

section Resolvers

variable {σ Req Rep : Type} {regs regs' : List (Registration Rep)} {r r' : Resolver Rep}

/-- A lineage has the same nearest mapper in registrations that come to the same. -/
theorem Nearest.of_sameLast (hlast : Registration.SameLast regs regs') {lineage : List Kind}
    {m : Mapper Rep} (h : Nearest regs lineage m) : Nearest regs' lineage m := by
  have hkinds : Registration.lastFor? regs = Registration.lastFor? regs' := funext hlast.kinds
  cases h with
  | kind hlineage hfor hnearer =>
    rw [hkinds] at hfor hnearer
    exact .kind hlineage hfor hnearer
  | default hnone hdefault =>
    rw [hkinds] at hnone
    rw [hlast.default] at hdefault
    exact .default hnone hdefault

/-- **Failures are mapped alike if the registrations come to the same.** -/
theorem mapFailures_of_sameLast (hlast : Registration.SameLast regs regs')
    (h : (Registration.table regs).build = .ok r) (h' : (Registration.table regs').build = .ok r') :
    (Filter.mapFailures r : Filter σ Req Rep) = Filter.mapFailures r' := by
  have hmapper : r.mapperFor = r'.mapperFor := by
    funext f
    exact Nearest.unique ((nearest_mapperFor h f).of_sameLast hlast) (nearest_mapperFor h' f)
  have hreply : r.reply = r'.reply := by
    funext f
    rw [Resolver.reply, Resolver.reply, hmapper]
  have hevents : r.events = r'.events := by
    funext f
    rw [Resolver.events, Resolver.events, hmapper]
  funext req
  rw [Filter.mapFailures, Filter.mapFailures, hreply, hevents]

end Resolvers

/-- What only some members of a list contribute, these contribute. -/
theorem flatMap_filter_of_nil {α β : Type} {p : α → Bool} {f : α → List β}
    (h : ∀ a, p a = false → f a = []) (l : List α) : (l.filter p).flatMap f = l.flatMap f := by
  induction l with
  | nil => rfl
  | cons a l ih =>
    cases ha : p a with
    | true => rw [List.filter_cons_of_pos ha, List.flatMap_cons, List.flatMap_cons, ih]
    | false =>
      rw [List.filter_cons_of_neg (Bool.eq_false_iff.mp ha), List.flatMap_cons, h a ha, ih]
      rfl

/-! ## HTTP routers -/

namespace Route

variable {σ : Type} {calls calls' : List (BuildCall σ)} {router router' : Router σ}

/-- Is what the call adds placed behind what was there before? -/
def BuildCall.isPlacing : BuildCall σ → Bool
  | addFilter _ | addFilters _ | add _ | addController _ => true
  | addMapper .. | setDefaultMapper _ | freeze => false

/-- Two histories place the same in the same order, and their registrations come to the same; those of the
    mappers that every router starts with count. -/
structure SamePlacement (calls calls' : List (BuildCall σ)) : Prop where
  placed : (accepted calls).filter BuildCall.isPlacing = (accepted calls').filter BuildCall.isPlacing
  mappers : Registration.SameLast
    (initialRegistrations ++ (accepted calls).flatMap BuildCall.registrations)
    (initialRegistrations ++ (accepted calls').flatMap BuildCall.registrations)

theorem BuildCall.adds_nothing {k : BuildCall σ} (hk : k.isPlacing = false) :
    k.routes = [] ∧ k.filters = [] := by
  cases k with
  | addMapper | setDefaultMapper | freeze => exact ⟨rfl, rfl⟩
  | _ => nomatch hk

/-- Only calls that are placed register routes, and add the filters that these come behind. -/
theorem registered_filter_isPlacing (global : Http.Chain σ) (calls : List (BuildCall σ)) :
    registered global (calls.filter BuildCall.isPlacing) = registered global calls := by
  induction calls generalizing global with
  | nil => rfl
  | cons k calls ih =>
    cases hk : k.isPlacing with
    | true => rw [List.filter_cons_of_pos hk, registered, registered, ih]
    | false =>
      obtain ⟨hroutes, hfilters⟩ := BuildCall.adds_nothing hk
      rw [List.filter_cons_of_neg (Bool.eq_false_iff.mp hk), registered, hroutes, hfilters, ih,
        List.append_nil]
      rfl

theorem router_of_samePlacement (hsame : SamePlacement calls calls')
    (hfreeze : (built calls).freeze.result = .ok router)
    (hfreeze' : (built calls').freeze.result = .ok router') : router = router' := by
  obtain ⟨resolver, hresolver, htable⟩ := router_of_freeze hfreeze
  obtain ⟨resolver', hresolver', htable'⟩ := router_of_freeze hfreeze'
  rw [mappersOf_eq_table] at hresolver hresolver'
  have hmapping : (Filter.mapFailures resolver : Http.Filter σ) = Filter.mapFailures resolver' :=
    mapFailures_of_sameLast hsame.mappers hresolver hresolver'
  have hregistered : registered [] (accepted calls) = registered [] (accepted calls') := by
    rw [← registered_filter_isPlacing, hsame.placed, registered_filter_isPlacing]
  rw [compiled, hmapping, hregistered, ← compiled, ← htable'] at htable
  obtain ⟨⟨routes⟩⟩ := router
  obtain ⟨⟨routes'⟩⟩ := router'
  obtain rfl : routes = routes' := htable
  rfl

end Route

/-! ## Service routers -/

namespace Rpc

variable {σ : Type} {calls calls' : List (BuildCall σ)} {router router' : Router σ}

/-- Is what the call adds placed behind what was there before? -/
def BuildCall.isPlacing : BuildCall σ → Bool
  | addFilter _ | addController _ => true
  | addMapper .. | setDefaultMapper _ | freeze => false

/-- Two histories place the same in the same order, and their registrations come to the same. -/
structure SamePlacement (calls calls' : List (BuildCall σ)) : Prop where
  placed : (accepted calls).filter BuildCall.isPlacing = (accepted calls').filter BuildCall.isPlacing
  mappers : Registration.SameLast ((accepted calls).flatMap BuildCall.registrations)
    ((accepted calls').flatMap BuildCall.registrations)

theorem BuildCall.adds_nothing {k : BuildCall σ} (hk : k.isPlacing = false) :
    k.methods = [] ∧ k.filters = [] ∧ k.controllers = [] := by
  cases k with
  | addMapper | setDefaultMapper | freeze => exact ⟨rfl, rfl, rfl⟩
  | _ => nomatch hk

theorem router_of_samePlacement (hsame : SamePlacement calls calls')
    (hfreeze : (built calls).freeze.result = .ok router)
    (hfreeze' : (built calls').freeze.result = .ok router') : router = router' := by
  obtain ⟨resolver, hresolver, htable, -⟩ := router_of_freeze hfreeze
  obtain ⟨resolver', hresolver', htable', -⟩ := router_of_freeze hfreeze'
  rw [mappersOf_eq_table] at hresolver hresolver'
  have hmapping : (Filter.mapFailures resolver : Filter σ) = Filter.mapFailures resolver' :=
    mapFailures_of_sameLast hsame.mappers hresolver hresolver'
  -- what only placed calls contribute is the same
  have hplaced : ∀ {β : Type} {f : BuildCall σ → List β}, (∀ k, k.isPlacing = false → f k = []) →
      (accepted calls).flatMap f = (accepted calls').flatMap f := by
    intro β f hf
    rw [← flatMap_filter_of_nil hf, hsame.placed, flatMap_filter_of_nil hf]
  have hmethods : acceptedMethods calls = acceptedMethods calls' :=
    hplaced fun k hk => (BuildCall.adds_nothing hk).1
  have hfilters : acceptedFilters calls = acceptedFilters calls' :=
    hplaced fun k hk => (BuildCall.adds_nothing hk).2.1
  have hcontrollers : acceptedControllers calls = acceptedControllers calls' :=
    hplaced fun k hk => (BuildCall.adds_nothing hk).2.2
  have hservice : router.service? = router'.service? := by
    rw [(serves hfreeze).service, (serves hfreeze').service, hcontrollers]
  rw [hmethods, hfilters, around, hmapping, ← around, ← htable'] at htable
  obtain ⟨service, table⟩ := router
  obtain ⟨service', table'⟩ := router'
  obtain rfl : service = service' := hservice
  obtain rfl : table = table' := htable
  rfl

end Rpc

/-! ## Both kinds of routers -/

/-- **Mappers are position independent.**  Two histories of calls on a router of either kind, of which both
    are frozen, with the same filters, routes and controllers accepted in the same order, the same mapper
    registered last for every kind, and the same for all other failures: they give the same router, which
    dispatches every request alike, wherever the mappers were registered and whatever mappers they took the
    place of. -/
theorem mappers_are_position_independent {σ : Type} :
    (∀ {calls calls' : List (Route.BuildCall σ)} {router router' : Route.Router σ},
      (Route.built calls).freeze.result = .ok router → (Route.built calls').freeze.result = .ok router' →
      Route.SamePlacement calls calls' →
      router = router' ∧ ∀ o req, router.dispatch o req = router'.dispatch o req) ∧
    (∀ {calls calls' : List (Rpc.BuildCall σ)} {router router' : Rpc.Router σ},
      (Rpc.built calls).freeze.result = .ok router → (Rpc.built calls').freeze.result = .ok router' →
      Rpc.SamePlacement calls calls' →
      router = router' ∧ ∀ bypass call, router.dispatch bypass call = router'.dispatch bypass call) := by
  constructor
  · intro calls calls' router router' hfreeze hfreeze' hsame
    obtain rfl := Route.router_of_samePlacement hsame hfreeze hfreeze'
    exact ⟨rfl, fun _ _ => rfl⟩
  · intro calls calls' router router' hfreeze hfreeze' hsame
    obtain rfl := Rpc.router_of_samePlacement hsame hfreeze hfreeze'
    exact ⟨rfl, fun _ _ => rfl⟩

/-- A mapper that is registered after the route it answers for, in place of another, and one that is
    registered at once; and a default mapper after the controller of a service, or around it. -/
theorem mappers_are_position_independent_late :
    let tea : Kind := ⟨"Tea"⟩
    let ping : Route Unit :=
      { name := "ping", method := "GET", pattern := .constant "/ping"
        callback := fun _ => .done (.error (.ofException (fun _ => none) tea (.message "no coffee"))) }
    let teapot : Mapper Http.Response := { reply := fun _ => .empty 418 }
    let calls := [.addMapper tea defaultMapper, .add ping, .addMapper tea teapot]
    let calls' := [.addMapper tea teapot, .add ping]
    let echo : Rpc.Method Unit :=
      { name := "echo", callback := fun call => .done (.ok (.reply call.payload)) }
    let mapper : Mapper Rpc.Reply := { reply := fun f => .exception "Failure" f.text }
    let other : Mapper Rpc.Reply := { reply := fun _ => .exception "Failure" "" }
    let binding : Rpc.BuildCall Unit := .addController ⟨"Echo", [echo]⟩
    (Route.built calls).freeze.result = (Route.built calls').freeze.result ∧
      (Rpc.built [binding, .setDefaultMapper mapper]).freeze.result
        = (Rpc.built [.setDefaultMapper other, binding, .setDefaultMapper mapper]).freeze.result := by
  intro tea ping teapot calls calls' echo mapper other binding
  obtain ⟨hhttp, hrpc⟩ := mappers_are_position_independent (σ := Unit)
  have hfreeze : (Route.built calls).freeze.result = .ok _ := rfl
  have hfreeze' : (Route.built calls').freeze.result = .ok _ := rfl
  have hsame : Route.SamePlacement calls calls' := by
    let initial : List (Registration Http.Response) := Route.initialRegistrations
    have hlast : ∀ k, Registration.lastFor? (initial ++ [.kind tea defaultMapper, .kind tea teapot]) k
        = Registration.lastFor? (initial ++ [.kind tea teapot]) k := by
      intro k
      by_cases hk : tea = k
      · simp [Registration.lastFor?, Registration.for?, hk]
      · simp [Registration.lastFor?, Registration.for?, hk]
    exact ⟨rfl, hlast, rfl⟩
  obtain ⟨hrouter, -⟩ := hhttp hfreeze hfreeze' hsame
  have hbuilt : (Rpc.built [binding, .setDefaultMapper mapper]).freeze.result = .ok _ := rfl
  have hbuilt' : (Rpc.built [.setDefaultMapper other, binding, .setDefaultMapper mapper]).freeze.result
    = .ok _ := rfl
  obtain ⟨hservice, -⟩ := hrpc hbuilt hbuilt' ⟨rfl, fun _ => rfl, rfl⟩
  rw [hfreeze, hfreeze', hbuilt, hbuilt', hrouter, hservice]
  exact ⟨rfl, rfl⟩

end Switchyard
