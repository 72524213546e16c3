import Switchyard.Proofs.Build.Batches
import Switchyard.Proofs.Build.Session
import Switchyard.Proofs.Failure.Registration
import Switchyard.Rpc.Router

/-!
  What a history of calls makes of a service router under construction.

  As for HTTP routers, the accepted calls say all there is to say.  All global filters are accepted
  before the methods, so every method stands behind all of them; and no two methods share a name.

  * `performs` — what one call can do;
  * `built_eq_together`, `nodup_names` — as long as it is not frozen, a router under construction is put
    together from the accepted calls;
  * `router_of_freeze` — and so is the router that freezing gives.
-/

namespace Switchyard.Rpc

variable {σ : Type}

/-- A call on a service router under construction. -/
inductive BuildCall (σ : Type) where
  | addFilter (f : Filter σ)
  | addMapper (k : Kind) (m : Mapper Reply)
  | setDefaultMapper (m : Mapper Reply)
  | addController (c : Controller σ)
  | freeze

namespace BuildCall

/-- Make a call. -/
def perform (b : Builder σ) : BuildCall σ → Change (Builder σ) Unit
  | addFilter f => b.addFilter f
  | addMapper k m => b.addMapper k m
  | setDefaultMapper m => b.setDefaultMapper m
  | addController c => b.addController c
  | freeze => b.freeze.map fun _ => ()

/-- The global filters that a call contributes. -/
def filters : BuildCall σ → Chain σ
  | addFilter f => [f]
  | _ => []

/-- The methods that a call contributes. -/
def methods : BuildCall σ → List (Method σ)
  | addController c => c.methods
  | _ => []

/-- The mappers there are after a call. -/
def mappers (ms : Mappers Reply) : BuildCall σ → Mappers Reply
  | addMapper k m => ms.register k m
  | setDefaultMapper m => ms.registerDefault m
  | _ => ms

/-- The name of the controller there is after a call. -/
def controller (name? : Option String) : BuildCall σ → Option String
  | addController c => some c.name
  | _ => name?

/-- The mappers that a call registers. -/
def registrations : BuildCall σ → List (Registration Reply)
  | addMapper k m => [.kind k m]
  | setDefaultMapper m => [.default m]
  | _ => []

end BuildCall

/-! ## One call -/

/-- What an accepted call makes of a router under construction. -/
def Builder.grow (b : Builder σ) (k : BuildCall σ) : Builder σ :=
  { b with
    filters := b.filters ++ k.filters
    mappers := k.mappers b.mappers
    controller? := k.controller b.controller?
    registry := ⟨b.registry.methods ++ k.methods⟩ }

/-- What accepting a call takes: no method that it contributes has a name that is taken. -/
def Builder.Admissible (b : Builder σ) (k : BuildCall σ) : Prop :=
  Method.firstRepeated? b.registry.names k.methods = none

/-- The call does what calls on a router under construction can do. -/
def Builder.Performs (b : Builder σ) (k : BuildCall σ) (c : Change (Builder σ) Unit) : Prop :=
  Performed (fun b : Builder σ => b.phase = .building) (b.Admissible k) b (b.grow k) c

/-- A call that contributes no methods adds its filters and mappers. -/
theorem grow_of_methods_nil {b : Builder σ} {k : BuildCall σ} (hmethods : k.methods = [])
    (hcontroller : k.controller b.controller? = b.controller?) :
    b.grow k = { b with filters := b.filters ++ k.filters, mappers := k.mappers b.mappers } := by
  rw [Builder.grow, hmethods, hcontroller, List.append_nil]

/-- A call that contributes neither methods nor filters adds its mappers. -/
theorem grow_of_filters_nil {b : Builder σ} {k : BuildCall σ} (hmethods : k.methods = [])
    (hcontroller : k.controller b.controller? = b.controller?) (hfilters : k.filters = []) :
    b.grow k = { b with mappers := k.mappers b.mappers } := by
  rw [grow_of_methods_nil hmethods hcontroller, hfilters, List.append_nil]

/-- An accepted controller adds its methods and its name. -/
theorem grow_addController (b : Builder σ) (c : Controller σ) :
    b.grow (.addController c) =
      { b with controller? := some c.name, registry := ⟨b.registry.methods ++ c.methods⟩ } := by
  have hfilters : (BuildCall.addController c).filters = [] := rfl
  rw [Builder.grow, hfilters, List.append_nil]
  rfl

/-- A call on a router that is not frozen is the call itself. -/
theorem whileBuilding_of_building {α : Type} {b : Builder σ} (h : b.phase = .building)
    (c : Change (Builder σ) α) : b.whileBuilding c = c := by
  rw [Builder.whileBuilding, h]

/-- Once the router is frozen every call is refused. -/
theorem perform_of_frozen {b : Builder σ} (h : b.phase = .frozen) (k : BuildCall σ) :
    k.perform b = ⟨b, .error .frozen, []⟩ := by
  cases k <;>
    simp only [BuildCall.perform, Builder.addFilter, Builder.addMapper, Builder.setDefaultMapper,
      Builder.addController, Builder.freeze, Builder.whileBuilding, h] <;> rfl

theorem performs (b : Builder σ) (k : BuildCall σ) : b.Performs k (k.perform b) := by
  cases hphase : b.phase with
  | frozen =>
    rw [perform_of_frozen hphase]
    exact .refused .frozen []
  | building =>
    have hopen : ∀ {α : Type} (c : Change (Builder σ) α), b.whileBuilding c = c :=
      whileBuilding_of_building hphase
    cases k with
    | addFilter f =>
      rw [BuildCall.perform, Builder.addFilter, hopen]
      split
      · exact .refused _ []
      · exact .grew _ _ hphase rfl (grow_of_methods_nil (k := .addFilter f) rfl rfl).symm
    | addMapper k m =>
      rw [BuildCall.perform, Builder.addMapper, hopen]
      exact .grew _ _ hphase rfl (grow_of_filters_nil (k := .addMapper k m) rfl rfl rfl).symm
    | setDefaultMapper m =>
      rw [BuildCall.perform, Builder.setDefaultMapper, hopen]
      exact .grew _ _ hphase rfl (grow_of_filters_nil (k := .setDefaultMapper m) rfl rfl rfl).symm
    | addController c =>
      rw [BuildCall.perform, Builder.addController, hopen]
      split
      · exact .refused _ []
      · rw [Registry.registerAll]
        cases hfresh : Method.firstRepeated? b.registry.names c.methods with
        | some m => exact .refused _ _
        | none => exact .grew _ _ hphase hfresh (grow_addController b c).symm
    | freeze =>
      rw [BuildCall.perform, Builder.freeze, hopen]
      cases b.mappers.build with
      | error e => exact .refused e []
      | ok resolver => exact .closed _ _ Phase.noConfusion

/-- The construction of a router. -/
def construction : Construction (Builder σ) (BuildCall σ) where
  perform := BuildCall.perform
  Open b := b.phase = .building
  Admissible := Builder.Admissible
  grow := Builder.grow
  performed := performs

/-- A call other than freezing leaves the phase. -/
theorem phase_perform (b : Builder σ) {k : BuildCall σ} (h : k ≠ .freeze) :
    (k.perform b).after.phase = b.phase := by
  cases hphase : b.phase with
  | frozen =>
    rw [perform_of_frozen hphase]
    exact hphase
  | building =>
    have hopen : ∀ {α : Type} (c : Change (Builder σ) α), b.whileBuilding c = c :=
      whileBuilding_of_building hphase
    cases k with
    | freeze => exact absurd rfl h
    | addFilter f =>
      rw [BuildCall.perform, Builder.addFilter, hopen]
      split
      · exact hphase
      · exact hphase
    | addMapper k m =>
      rw [BuildCall.perform, Builder.addMapper, hopen]
      exact hphase
    | setDefaultMapper m =>
      rw [BuildCall.perform, Builder.setDefaultMapper, hopen]
      exact hphase
    | addController c =>
      rw [BuildCall.perform, Builder.addController, hopen]
      split
      · exact hphase
      · dsimp only
        split
        · exact hphase
        · exact hphase

/-! ## Freezing -/

/-- Freezing is told from the other calls. -/
def BuildCall.isFreeze : (k : BuildCall σ) → Decidable (k = .freeze)
  | freeze => isTrue rfl
  | addFilter _ | addMapper _ _ | setDefaultMapper _ | addController _ =>
    isFalse fun h => by cases h

/-- A builder that does not go on is frozen. -/
theorem phase_of_ne {b : Builder σ} (h : b.phase ≠ .building) : b.phase = .frozen := by
  cases hphase : b.phase with
  | building => exact absurd hphase h
  | frozen => rfl

/-- Freezing, if it is accepted, ends the building. -/
theorem phase_freeze {b : Builder σ} (h : (BuildCall.freeze.perform b).Accepted) :
    (BuildCall.freeze.perform b).after.phase = .frozen := by
  obtain ⟨u, hok⟩ := h
  rw [BuildCall.perform, Builder.freeze, Builder.whileBuilding] at hok ⊢
  cases hphase : b.phase with
  | frozen =>
    rw [hphase] at hok
    nomatch hok
  | building =>
    rw [hphase] at hok
    cases hbuild : b.mappers.build with
    | error e =>
      rw [hbuild] at hok
      nomatch hok
    | ok resolver => rfl

/-- The production of a router. -/
def production : Production (Builder σ) (BuildCall σ) (Router σ) where
  toConstruction := construction
  finish := .freeze
  give := Builder.freeze
  isFinish := BuildCall.isFreeze
  perform_finish _ := rfl
  keeps b k h := Iff.of_eq (congrArg (· = Phase.building) (phase_perform b h))
  ends h hopen := Phase.noConfusion ((phase_freeze h).symm.trans hopen)
  refuses h k := perform_of_frozen (phase_of_ne h) k
  givesNot {b} h := by rw [Builder.freeze, Builder.whileBuilding, phase_of_ne h]

/-! ## Histories -/

/-- A router under construction after calls on a new one. -/
def built (calls : List (BuildCall σ)) : Builder σ := construction.after {} calls

/-- The calls that are accepted, of calls on a new router. -/
def accepted (calls : List (BuildCall σ)) : List (BuildCall σ) := construction.accepted {} calls

/-- The methods that are accepted, in order. -/
def acceptedMethods (calls : List (BuildCall σ)) : List (Method σ) :=
  (accepted calls).flatMap BuildCall.methods

/-- The global filters that are accepted, in order. -/
def acceptedFilters (calls : List (BuildCall σ)) : Chain σ :=
  (accepted calls).flatMap BuildCall.filters

/-- The mappers that calls leave. -/
def mappersOf (calls : List (BuildCall σ)) : Mappers Reply := calls.foldl BuildCall.mappers {}

/-- The mappers that calls leave are those that they register. -/
theorem mappersOf_eq_table (calls : List (BuildCall σ)) :
    mappersOf calls = Registration.table (calls.flatMap BuildCall.registrations) := by
  have hcall : (BuildCall.mappers : _ → BuildCall σ → _) =
      fun ms k => k.registrations.foldl Registration.apply ms := by
    funext ms k
    cases k <;> rfl
  rw [mappersOf, hcall, Registration.table, List.foldl_flatMap]

/-- The router under construction that accepted calls put together. -/
def together (calls : List (BuildCall σ)) : Builder σ :=
  { filters := calls.flatMap BuildCall.filters
    mappers := mappersOf calls
    controller? := calls.foldl BuildCall.controller none
    registry := ⟨calls.flatMap BuildCall.methods⟩ }

/-- One more accepted call is put together with those before it. -/
theorem grow_together (calls : List (BuildCall σ)) (k : BuildCall σ) :
    (together calls).grow k = together (calls ++ [k]) := by
  simp only [Builder.grow, together, mappersOf, List.flatMap_append, List.flatMap_singleton,
    List.foldl_append, List.foldl_cons, List.foldl_nil]

/-- **A router under construction is put together from the accepted calls**, as long as it is not
    frozen. -/
theorem built_eq_together {calls : List (BuildCall σ)} (h : (built calls).phase = .building) :
    built calls = together (accepted calls) := by
  refine Construction.open_induction (R := fun done b => b = together done) rfl ?_ h
  intro done b k hb _
  rw [hb]
  exact grow_together done k

/-- The method to refuse is the first of the batch whose name is taken. -/
theorem Method.firstRepeated?_eq_firstTaken? (seen : List String) (ms : List (Method σ)) :
    firstRepeated? seen ms = firstTaken? name seen ms := by
  induction ms generalizing seen with
  | nil => rfl
  | cons m ms ih => rw [firstRepeated?, firstTaken?, ih]

/-- No two methods of a router under construction share a name. -/
theorem nodup_names {calls : List (BuildCall σ)} (h : (built calls).phase = .building) :
    (built calls).registry.names.Nodup := by
  have hstart : ({} : Builder σ).registry.names.Nodup := List.nodup_nil
  refine Construction.open_induction (R := fun _ (b : Builder σ) => b.registry.names.Nodup) hstart ?_ h
  intro done b k hnodup hadmissible
  have hfresh : Fresh Method.name b.registry.names k.methods :=
    firstTaken?_eq_none_iff.mp ((Method.firstRepeated?_eq_firstTaken? _ _).symm.trans hadmissible)
  show ((b.registry.methods ++ k.methods).map Method.name).Nodup
  rw [List.map_append]
  exact nodup_append_of_fresh hnodup hfresh

/-- The filters that freezing puts around every method. -/
def around (resolver : Resolver Reply) (global : Chain σ) : Chain σ :=
  [Filter.mapFailures resolver] ++ global ++ [Filter.mapFailures resolver]

/-- Only a router under construction is frozen. -/
theorem building_of_freeze {b : Builder σ} {router : Router σ} (h : b.freeze.result = .ok router) :
    b.phase = .building := by
  cases hphase : b.phase with
  | building => rfl
  | frozen =>
    rw [Builder.freeze, Builder.whileBuilding, hphase] at h
    nomatch h

/-- **The router that freezing gives**: every accepted method behind failure mapping, all global filters,
    failure mapping again, and its own filters.  No two methods share a name. -/
theorem router_of_freeze {calls : List (BuildCall σ)} {router : Router σ}
    (h : (built calls).freeze.result = .ok router) :
    ∃ resolver, (mappersOf (accepted calls)).build = .ok resolver ∧
      router.table = Registry.compile ⟨acceptedMethods calls⟩ (around resolver (acceptedFilters calls)) ∧
      ((acceptedMethods calls).map Method.name).Nodup := by
  have hphase := building_of_freeze h
  have hbuilt := built_eq_together hphase
  have hnodup := nodup_names hphase
  rw [hbuilt] at hnodup
  rw [Builder.freeze, Builder.whileBuilding, hphase, hbuilt] at h
  show ∃ resolver, (together (accepted calls)).mappers.build = .ok resolver ∧ _
  cases hbuild : (together (accepted calls)).mappers.build with
  | error e =>
    rw [hbuild] at h
    nomatch h
  | ok resolver =>
    rw [hbuild] at h
    obtain rfl := Except.ok.inj h
    exact ⟨resolver, rfl, rfl, hnodup⟩

end Switchyard.Rpc
