import Switchyard.Proofs.Build.Batches
import Switchyard.Proofs.Build.Session
import Switchyard.Proofs.Failure.Registration
import Switchyard.Route.Router

/-!
  What a history of calls makes of a router under construction.

  The calls that are accepted say all there is to say: every one of them contributes filters, routes and
  mappers (`BuildCall.filters`, `routes`, `mappers`), and a route is registered with the filters that
  earlier calls contributed (`registered`).

  1. **One call.**  What it can do is one of three things (`Builder.Performs`, `performs`): it is refused and leaves
     the builder as it was, it adds what it contributes, or it freezes.

  2. **Histories.**  As long as it is not frozen, a router under construction is put together from the accepted
     calls (`built_eq_together`), by induction on the calls: one call more adds to what was there.

  3. **Freezing.**  The router that freezing gives is compiled from that (`router_of_freeze`), with one stage that
     maps failures made of all mappers, and no two of its routes share a key (`nodup_keys_of_freeze`).
-/

namespace Switchyard.Route

variable {σ : Type}

/-- The routes that a controller declares, if they can be made. -/
def Controller.declared (c : Controller σ) : List (Route σ) :=
  match c.routes with
  | .ok routes => routes
  | .error _ => []

/-- A call on a router under construction. -/
inductive BuildCall (σ : Type) where
  | addFilter (f : Http.Filter σ)
  | addFilters (c : Http.Chain σ)
  | addMapper (k : Kind) (m : Mapper Http.Response)
  | setDefaultMapper (m : Mapper Http.Response)
  | add (r : Route σ)
  | addController (c : Controller σ)
  | freeze

namespace BuildCall

/-- Make a call. -/
def perform (b : Builder σ) : BuildCall σ → Change (Builder σ) Unit
  | addFilter f => b.addFilter f
  | addFilters c => b.addFilters c
  | addMapper k m => b.addMapper k m
  | setDefaultMapper m => b.setDefaultMapper m
  | add r => b.add r
  | addController c => b.addController c
  | freeze => b.freeze.map fun _ => ()

/-- The global filters that a call contributes. -/
def filters : BuildCall σ → Http.Chain σ
  | addFilter f => [f]
  | addFilters c => c
  | _ => []

/-- The routes that a call contributes. -/
def routes : BuildCall σ → List (Route σ)
  | add r => [r]
  | addController c => c.declared
  | _ => []

/-- The mappers there are after a call. -/
def mappers (ms : Mappers Http.Response) : BuildCall σ → Mappers Http.Response
  | addMapper k m => ms.register k m
  | setDefaultMapper m => ms.registerDefault m
  | _ => ms

/-- The mappers that a call registers. -/
def registrations : BuildCall σ → List (Registration Http.Response)
  | addMapper k m => [.kind k m]
  | setDefaultMapper m => [.default m]
  | _ => []

end BuildCall

/-! ## One call -/

/-- What an accepted call makes of a router under construction. -/
def Builder.grow (b : Builder σ) (k : BuildCall σ) : Builder σ :=
  { b with
    filters := b.filters ++ k.filters
    mappers := k.mappers b.mappers
    registry := ⟨b.registry.routes ++ k.routes.map fun r => ⟨r, b.filters⟩⟩ }

/-- What accepting a call takes: no route that it contributes has a key that is taken. -/
def Builder.Admissible (b : Builder σ) (k : BuildCall σ) : Prop :=
  firstRepeated? b.registry.keys k.routes = none

/-- The call does what calls on a router under construction can do. -/
def Builder.Performs (b : Builder σ) (k : BuildCall σ) (c : Change (Builder σ) Unit) : Prop :=
  Performed (fun b : Builder σ => b.phase = .building) (b.Admissible k) b (b.grow k) c

/-- Adding routes is refused as a whole, or registers them with the filters that there are. -/
theorem performs_addAll {b : Builder σ} {k : BuildCall σ} (hphase : b.phase = .building)
    (hfilters : k.filters = []) (hmappers : k.mappers b.mappers = b.mappers) (before : List Event) :
    b.Performs k (b.addAll k.routes before) := by
  rw [Builder.addAll, Registry.registerAll]
  cases hfresh : firstRepeated? b.registry.keys k.routes with
  | some r => exact .refused _ _
  | none =>
    refine .grew _ _ hphase hfresh ?_
    rw [Builder.grow, hfilters, hmappers, List.append_nil]
    rfl

/-- A call that contributes no routes adds its filters and mappers. -/
theorem grow_of_routes_nil {b : Builder σ} {k : BuildCall σ} (h : k.routes = []) :
    b.grow k = { b with filters := b.filters ++ k.filters, mappers := k.mappers b.mappers } := by
  rw [Builder.grow, h, List.map_nil, List.append_nil]

/-- A call that contributes neither routes nor filters adds its mappers. -/
theorem grow_of_filters_nil {b : Builder σ} {k : BuildCall σ} (hroutes : k.routes = [])
    (hfilters : k.filters = []) : b.grow k = { b with mappers := k.mappers b.mappers } := by
  rw [grow_of_routes_nil hroutes, hfilters, List.append_nil]

/-- A call on a router that is not frozen is the call itself. -/
theorem whileBuilding_of_building {α : Type} {b : Builder σ} (h : b.phase = .building)
    (c : Change (Builder σ) α) : b.whileBuilding c = c := by
  rw [Builder.whileBuilding, h]

/-- Once the router is frozen every call is refused. -/
theorem perform_of_frozen {b : Builder σ} (h : b.phase = .frozen) (k : BuildCall σ) :
    k.perform b = ⟨b, .error .frozen, []⟩ := by
  cases k <;>
    simp only [BuildCall.perform, Builder.addFilter, Builder.addFilters, Builder.addMapper,
      Builder.setDefaultMapper, Builder.add, Builder.addController, Builder.freeze,
      Builder.whileBuilding, h] <;> rfl

theorem performs (b : Builder σ) (k : BuildCall σ) : b.Performs k (k.perform b) := by
  cases hphase : b.phase with
  | frozen =>
    rw [perform_of_frozen hphase]
    exact .refused .frozen []
  | building =>
    have hopen : ∀ {α : Type} (c : Change (Builder σ) α), b.whileBuilding c = c :=
      whileBuilding_of_building hphase
    cases k with
    | addFilter f =>
      rw [BuildCall.perform, Builder.addFilter, Builder.addFilters, hopen]
      exact .grew _ _ hphase rfl (grow_of_routes_nil (k := .addFilter f) rfl).symm
    | addFilters c =>
      rw [BuildCall.perform, Builder.addFilters, hopen]
      exact .grew _ _ hphase rfl (grow_of_routes_nil (k := .addFilters c) rfl).symm
    | addMapper k m =>
      rw [BuildCall.perform, Builder.addMapper, hopen]
      exact .grew _ _ hphase rfl (grow_of_filters_nil (k := .addMapper k m) rfl rfl).symm
    | setDefaultMapper m =>
      rw [BuildCall.perform, Builder.setDefaultMapper, hopen]
      exact .grew _ _ hphase rfl (grow_of_filters_nil (k := .setDefaultMapper m) rfl rfl).symm
    | add r =>
      rw [BuildCall.perform, Builder.add, hopen]
      exact performs_addAll (k := .add r) hphase rfl rfl []
    | addController c =>
      rw [BuildCall.perform, Builder.addController, hopen]
      cases hroutes : c.routes with
      | error e => exact .refused e []
      | ok routes =>
        have hdeclared : (BuildCall.addController c).routes = routes := by
          show c.declared = routes
          rw [Controller.declared, hroutes]
        have hadd := performs_addAll (k := .addController c) hphase rfl rfl
        rw [hdeclared] at hadd
        exact hadd _
    | freeze =>
      rw [BuildCall.perform, Builder.freeze, hopen]
      cases b.mappers.build with
      | error e => exact .refused e []
      | ok resolver => exact .closed _ _ Phase.noConfusion

/-- The construction of a router. -/
def construction : Construction (Builder σ) (BuildCall σ) where
  perform := BuildCall.perform
  Open b := b.phase = .building
  Admissible := Builder.Admissible
  grow := Builder.grow
  performed := performs

/-- A call other than freezing leaves the phase. -/
theorem phase_perform (b : Builder σ) {k : BuildCall σ} (h : k ≠ .freeze) :
    (k.perform b).after.phase = b.phase := by
  cases hphase : b.phase with
  | frozen =>
    rw [perform_of_frozen hphase]
    exact hphase
  | building =>
    have hopen : ∀ {α : Type} (c : Change (Builder σ) α), b.whileBuilding c = c :=
      whileBuilding_of_building hphase
    cases k with
    | freeze => exact absurd rfl h
    | addFilter f =>
      rw [BuildCall.perform, Builder.addFilter, Builder.addFilters, hopen]
      exact hphase
    | addFilters c =>
      rw [BuildCall.perform, Builder.addFilters, hopen]
      exact hphase
    | addMapper k m =>
      rw [BuildCall.perform, Builder.addMapper, hopen]
      exact hphase
    | setDefaultMapper m =>
      rw [BuildCall.perform, Builder.setDefaultMapper, hopen]
      exact hphase
    | add r =>
      rw [BuildCall.perform, Builder.add, hopen]
      exact hphase
    | addController c =>
      rw [BuildCall.perform, Builder.addController, hopen]
      cases c.routes with
      | error e => exact hphase
      | ok routes => exact hphase

/-! ## Freezing -/

/-- Freezing is told from the other calls. -/
def BuildCall.isFreeze : (k : BuildCall σ) → Decidable (k = .freeze)
  | freeze => isTrue rfl
  | addFilter _ | addFilters _ | addMapper _ _ | setDefaultMapper _ | add _ | addController _ =>
    isFalse fun h => by cases h

/-- A builder that does not go on is frozen. -/
theorem phase_of_ne {b : Builder σ} (h : b.phase ≠ .building) : b.phase = .frozen := by
  cases hphase : b.phase with
  | building => exact absurd hphase h
  | frozen => rfl

/-- Freezing, if it is accepted, ends the building. -/
theorem phase_freeze {b : Builder σ} (h : (BuildCall.freeze.perform b).Accepted) :
    (BuildCall.freeze.perform b).after.phase = .frozen := by
  obtain ⟨u, hok⟩ := h
  rw [BuildCall.perform, Builder.freeze, Builder.whileBuilding] at hok ⊢
  cases hphase : b.phase with
  | frozen =>
    rw [hphase] at hok
    nomatch hok
  | building =>
    rw [hphase] at hok
    cases hbuild : b.mappers.build with
    | error e =>
      rw [hbuild] at hok
      nomatch hok
    | ok resolver => rfl

/-- The production of a router. -/
def production : Production (Builder σ) (BuildCall σ) (Router σ) where
  toConstruction := construction
  finish := .freeze
  give := Builder.freeze
  isFinish := BuildCall.isFreeze
  perform_finish _ := rfl
  keeps b k h := Iff.of_eq (congrArg (· = Phase.building) (phase_perform b h))
  ends h hopen := Phase.noConfusion ((phase_freeze h).symm.trans hopen)
  refuses h k := perform_of_frozen (phase_of_ne h) k
  givesNot {b} h := by rw [Builder.freeze, Builder.whileBuilding, phase_of_ne h]

/-! ## Histories -/

/-- A router under construction after calls on a new one. -/
def built (calls : List (BuildCall σ)) : Builder σ := construction.after {} calls

/-- The calls that are accepted, of calls on a new router. -/
def accepted (calls : List (BuildCall σ)) : List (BuildCall σ) := construction.accepted {} calls

/-- The routes that are accepted, in order. -/
def acceptedRoutes (calls : List (BuildCall σ)) : List (Route σ) :=
  (accepted calls).flatMap BuildCall.routes

/-! ## What accepted calls put together -/

/-- The mappers that calls leave. -/
def mappersOf (calls : List (BuildCall σ)) : Mappers Http.Response :=
  calls.foldl BuildCall.mappers initialMappers

/-- The mappers that every router starts with, as registrations. -/
def initialRegistrations : List (Registration Http.Response) :=
  [.kind HttpException.kind httpExceptionMapper, .default defaultMapper]

/-- The mappers that calls leave are those that they register, after those there are to begin with. -/
theorem mappersOf_eq_table (calls : List (BuildCall σ)) :
    mappersOf calls
      = Registration.table (initialRegistrations ++ calls.flatMap BuildCall.registrations) := by
  have hcall : (BuildCall.mappers : _ → BuildCall σ → _) =
      fun ms k => k.registrations.foldl Registration.apply ms := by
    funext ms k
    cases k <;> rfl
  rw [mappersOf, hcall, Registration.table, List.foldl_append, List.foldl_flatMap]
  rfl

/-- The routes that calls contribute, each with the filters there are when it comes; `global` are those
    that there are to begin with. -/
def registered : Http.Chain σ → List (BuildCall σ) → List (Registered σ)
  | _, [] => []
  | global, k :: ks => (k.routes.map fun r => ⟨r, global⟩) ++ registered (global ++ k.filters) ks

/-- The router under construction that accepted calls put together. -/
def together (calls : List (BuildCall σ)) : Builder σ :=
  { filters := calls.flatMap BuildCall.filters
    mappers := mappersOf calls
    registry := ⟨registered [] calls⟩ }

theorem registered_append (global : Http.Chain σ) (ks ks' : List (BuildCall σ)) :
    registered global (ks ++ ks')
      = registered global ks ++ registered (global ++ ks.flatMap BuildCall.filters) ks' := by
  induction ks generalizing global with
  | nil =>
    rw [List.flatMap_nil, List.append_nil]
    rfl
  | cons k ks ih =>
    rw [List.cons_append, registered, registered, ih, List.flatMap_cons, List.append_assoc,
      List.append_assoc]

/-- A call's routes are registered with the filters of the calls before it. -/
theorem registered_split (before after : List (BuildCall σ)) (k : BuildCall σ) :
    registered [] (before ++ k :: after)
      = registered [] before
        ++ (k.routes.map fun r => ⟨r, before.flatMap BuildCall.filters⟩)
        ++ registered (before.flatMap BuildCall.filters ++ k.filters) after := by
  rw [registered_append, List.nil_append, registered, List.append_assoc]

theorem map_route_batch (global : Http.Chain σ) (routes : List (Route σ)) :
    (routes.map fun r => (⟨r, global⟩ : Registered σ)).map Registered.route = routes := by
  rw [List.map_map]
  exact List.map_id routes

theorem map_route_registered (global : Http.Chain σ) (ks : List (BuildCall σ)) :
    (registered global ks).map Registered.route = ks.flatMap BuildCall.routes := by
  induction ks generalizing global with
  | nil => rfl
  | cons k ks ih => rw [registered, List.map_append, map_route_batch, ih, List.flatMap_cons]

/-- The accepted routes around one of them, as they are registered. -/
theorem registered_of_acceptedRoutes {calls : List (BuildCall σ)} {earlier later : List (Route σ)}
    {r : Route σ} (h : acceptedRoutes calls = earlier ++ r :: later) :
    ∃ earlier' global later', registered [] (accepted calls) = earlier' ++ ⟨r, global⟩ :: later' ∧
      earlier'.map Registered.route = earlier := by
  rw [acceptedRoutes, ← map_route_registered []] at h
  obtain ⟨earlier', rest, hregs, hearlier, hrest⟩ := List.map_eq_append_iff.mp h
  obtain ⟨p, later', rfl, hp, -⟩ := List.map_eq_cons_iff.mp hrest
  obtain ⟨r', global⟩ := p
  obtain rfl : r' = r := hp
  exact ⟨earlier', global, later', hregs, hearlier⟩

/-- One more accepted call is put together with those before it. -/
theorem grow_together (calls : List (BuildCall σ)) (k : BuildCall σ) :
    (together calls).grow k = together (calls ++ [k]) := by
  simp only [Builder.grow, together, mappersOf, List.flatMap_append, List.flatMap_singleton,
    List.foldl_append, List.foldl_cons, List.foldl_nil, registered_append, registered, List.append_nil,
    List.nil_append]

/-- **A router under construction is put together from the accepted calls**, as long as it is not
    frozen. -/
theorem built_eq_together {calls : List (BuildCall σ)} (h : (built calls).phase = .building) :
    built calls = together (accepted calls) := by
  refine Construction.open_induction (R := fun done b => b = together done) rfl ?_ h
  intro done b k hb _
  rw [hb]
  exact grow_together done k

/-- The route to refuse is the first of the batch whose key is taken. -/
theorem firstRepeated?_eq_firstTaken? (seen : List Key) (rs : List (Route σ)) :
    firstRepeated? seen rs = firstTaken? key seen rs := by
  induction rs generalizing seen with
  | nil => rfl
  | cons r rs ih => rw [firstRepeated?, firstTaken?, ih]

/-- No two routes of a router under construction share a key. -/
theorem nodup_keys {calls : List (BuildCall σ)} (h : (built calls).phase = .building) :
    (built calls).registry.keys.Nodup := by
  have hstart : ({} : Builder σ).registry.keys.Nodup := List.nodup_nil
  refine Construction.open_induction (R := fun _ (b : Builder σ) => b.registry.keys.Nodup) hstart ?_ h
  intro done b k hnodup hadmissible
  have hfresh : Fresh key b.registry.keys k.routes :=
    firstTaken?_eq_none_iff.mp ((firstRepeated?_eq_firstTaken? _ _).symm.trans hadmissible)
  show ((b.registry.routes ++ k.routes.map _).map _).Nodup
  rw [List.map_append, List.map_map]
  exact nodup_append_of_fresh hnodup hfresh

/-- Registered routes made ready: failures are mapped outside and inside of the global filters. -/
def compiled (resolver : Resolver Http.Response) (regs : List (Registered σ)) : List (Compiled σ) :=
  regs.map (Registered.compile [Filter.mapFailures resolver] [Filter.mapFailures resolver])

/-- Only a router under construction is frozen. -/
theorem building_of_freeze {b : Builder σ} {router : Router σ} (h : b.freeze.result = .ok router) :
    b.phase = .building := by
  cases hphase : b.phase with
  | building => rfl
  | frozen =>
    rw [Builder.freeze, Builder.whileBuilding, hphase] at h
    nomatch h

/-- **The router that freezing gives**: every accepted route behind failure mapping, the global filters
    accepted before it, failure mapping again, and its own filters. -/
theorem router_of_freeze {calls : List (BuildCall σ)} {router : Router σ}
    (h : (built calls).freeze.result = .ok router) :
    ∃ resolver, (mappersOf (accepted calls)).build = .ok resolver ∧
      router.table.routes = compiled resolver (registered [] (accepted calls)) := by
  have hphase := building_of_freeze h
  rw [Builder.freeze, Builder.whileBuilding, hphase, built_eq_together hphase] at h
  show ∃ resolver, (together (accepted calls)).mappers.build = .ok resolver ∧ _
  cases hbuild : (together (accepted calls)).mappers.build with
  | error e =>
    rw [hbuild] at h
    nomatch h
  | ok resolver =>
    rw [hbuild] at h
    obtain rfl := Except.ok.inj h
    exact ⟨resolver, rfl, rfl⟩

/-- No two routes of a frozen router share a key. -/
theorem nodup_keys_of_freeze {calls : List (BuildCall σ)} {router : Router σ}
    (h : (built calls).freeze.result = .ok router) : ((acceptedRoutes calls).map key).Nodup := by
  have hphase := building_of_freeze h
  have hnodup := nodup_keys hphase
  rw [built_eq_together hphase] at hnodup
  rw [acceptedRoutes, ← map_route_registered [], List.map_map]
  exact hnodup

end Switchyard.Route
