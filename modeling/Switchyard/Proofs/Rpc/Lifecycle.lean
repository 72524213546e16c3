import Switchyard.Proofs.Rpc.Dispatch

/-!
  The life of a service router: which calls are refused while it is built, and what it serves once it is
  frozen.

  All of it is told by the calls that were accepted, above all by the controllers among them
  (`acceptedControllers`), of which there is never more than one (`bound`).

  1. **Before freezing.**  A mapper is always accepted, and a filter until there is a controller.  A controller is
     refused if there is one already, or else if two of its methods share a name (`result_addController`).  Freezing
     needs a default mapper (`freeze_result_eq_error_iff`).

  2. **After it.**  Every call is refused, and nothing changes any more (`Answered`).

  3. **What is held.**  A router under construction holds the methods of its controller and nothing else (`Bound`).

  4. **What is served.**  A frozen router lists the names in the order in which they were declared, and runs a method
     behind all filters that were accepted (`Serves`).

  The main statement is `serves_one_controller`.
-/

namespace Switchyard.Rpc

variable {σ : Type}

/-- The controllers that a call binds. -/
def BuildCall.controllers : BuildCall σ → List (Controller σ)
  | addController c => [c]
  | _ => []

/-- The controllers that are accepted, in order. -/
def acceptedControllers (calls : List (BuildCall σ)) : List (Controller σ) :=
  (accepted calls).flatMap BuildCall.controllers

/-- A method is the first of a list that has the name of one before it. -/
def FirstRepeat (ms : List (Method σ)) (m : Method σ) : Prop :=
  ∃ earlier later, ms = earlier ++ m :: later ∧ m.name ∈ earlier.map Method.name ∧
    (earlier.map Method.name).Nodup

/-- How calls are answered after others, told by those that were accepted. -/
structure Answered (calls : List (BuildCall σ)) : Prop where
  /-- Once freezing was accepted, every call comes too late. -/
  afterFreeze : .freeze ∈ accepted calls →
    ∀ k : BuildCall σ, (k.perform (built calls)).result = .error .frozen
  /-- Until then, a filter is refused exactly if a controller was accepted. -/
  addFilter : .freeze ∉ accepted calls → ∀ f e,
    ((BuildCall.addFilter f).perform (built calls)).result = .error e ↔
      ∃ bound ∈ acceptedControllers calls, e = .filterAfterController bound.name
  /-- A controller is refused exactly if one was accepted, or else if two of its methods share a name. -/
  addController : .freeze ∉ accepted calls → ∀ c e,
    ((BuildCall.addController c).perform (built calls)).result = .error e ↔
      (∃ bound ∈ acceptedControllers calls, e = .multipleControllers bound.name c.name) ∨
        acceptedControllers calls = [] ∧ ∃ m, FirstRepeat c.methods m ∧ e = .duplicateMethod m.name
  /-- So it is accepted exactly if it is the first, and no two of its methods share a name. -/
  accepts : .freeze ∉ accepted calls → ∀ c,
    ((BuildCall.addController c).perform (built calls)).result = .ok () ↔
      acceptedControllers calls = [] ∧ (c.methods.map Method.name).Nodup
  /-- Freezing is refused exactly if no mapper for all other failures was accepted. -/
  freeze : .freeze ∉ accepted calls → ∀ e, (built calls).freeze.result = .error e ↔
    (∀ m, .setDefaultMapper m ∉ accepted calls) ∧ e = .missingDefaultMapper
  /-- Mappers are never refused. -/
  addMapper : .freeze ∉ accepted calls → ∀ k m,
    ((BuildCall.addMapper k m).perform (built calls)).result = .ok ()
  setDefaultMapper : .freeze ∉ accepted calls → ∀ m,
    ((BuildCall.setDefaultMapper m).perform (built calls)).result = .ok ()

/-- What is bound after calls. -/
structure Bound (calls : List (BuildCall σ)) : Prop where
  /-- At most one controller is ever bound. -/
  atMostOne : (acceptedControllers calls).length ≤ 1
  controller : (built calls).controller? = (acceptedControllers calls).head?.map Controller.name
  /-- Until the router is frozen, the registry holds the methods of the controller. -/
  registry : .freeze ∉ accepted calls →
    (built calls).registry.methods = (acceptedControllers calls).flatMap Controller.methods
  /-- So there are methods only if a controller is bound. -/
  onlyIfBound : .freeze ∉ accepted calls → (built calls).registry.methods ≠ [] →
    ∃ c, acceptedControllers calls = [c] ∧ (built calls).controller? = some c.name

/-- What a router that was frozen after calls serves. -/
structure Serves (calls : List (BuildCall σ)) (router : Router σ) : Prop where
  service : router.service? = (acceptedControllers calls).head?.map Controller.name
  /-- It lists the methods of its controller, in the order in which they are declared. -/
  names : router.table.names
    = (acceptedControllers calls).flatMap fun c => c.methods.map Method.name
  /-- There is something to dispatch to exactly for the names that are listed. -/
  listed : ∀ name, (router.table.lookup name).isSome ↔ name ∈ router.table.names
  /-- Any other call is refused. -/
  unlisted : ∀ call bypass, call.method ∉ router.table.names →
    router.dispatch bypass call = notFound call
  /-- A call to a method goes through `M(F₁(..Fₖ(M(P₁(..Pₘ(callback))))))`: the `F` are all filters that
      were accepted, the `P` those of the method, and `M` settles what it stands in front of, a failure
      by the nearest of the mappers that were accepted. -/
  dispatch : ∃ resolver : Resolver Reply,
    let M : Filter σ := Filter.mapFailures resolver
    let Fs := acceptedFilters calls
    (∀ f, Nearest ((accepted calls).flatMap BuildCall.registrations) f.lineage (resolver.mapperFor f)) ∧
    (∀ next q, M.wrap next q = (next q).bind (Filter.settle resolver)) ∧
    ∀ c ∈ acceptedControllers calls, ∀ m ∈ c.methods, ∀ call, m.name = call.method →
      router.dispatch false call
          = dispatched (M.wrap (Chain.compose Fs (M.wrap (Chain.compose m.filters m.callback)))) call ∧
        ∀ acts res, Prog.Run (router.dispatch false call) acts res ↔
          ∃ es, ∃ rep? : Option Reply,
            Chain.Account m.callback (M :: (Fs ++ M :: m.filters)) 0 call es (rep?.map .ok) ∧
              acts = es.filterMap Entry.act? ∧ res = rep?.map .ok

/-! ## Names that repeat -/

theorem firstRepeated?_nil_eq_none_iff {ms : List (Method σ)} :
    Method.firstRepeated? [] ms = none ↔ (ms.map Method.name).Nodup := by
  rw [Method.firstRepeated?_eq_firstTaken?, firstTaken?_eq_none_iff, fresh_iff_nodup]

/-- The method that is found to repeat a name is the first that does. -/
theorem firstRepeated?_nil_eq_some_iff {ms : List (Method σ)} {m : Method σ} :
    Method.firstRepeated? [] ms = some m ↔ FirstRepeat ms m := by
  rw [Method.firstRepeated?_eq_firstTaken?, firstTaken?_eq_some_iff]
  simp only [FirstTaken, FirstRepeat, List.not_mem_nil, false_or, fresh_iff_nodup]

/-! ## The controller -/

/-- Accepting a call binds no controller, or the first one. -/
theorem controller_of_accepted {b : Builder σ} {k : BuildCall σ} (h : (k.perform b).Accepted) :
    k.controllers = [] ∧ (k.perform b).after.controller? = b.controller? ∨
      ∃ c, k = .addController c ∧ b.controller? = none ∧
        (k.perform b).after.controller? = some c.name := by
  obtain ⟨u, hok⟩ := h
  cases hphase : b.phase with
  | frozen =>
    rw [perform_of_frozen hphase] at hok
    cases hok
  | building =>
    have hopen : ∀ {α : Type} (c : Change (Builder σ) α), b.whileBuilding c = c :=
      whileBuilding_of_building hphase
    cases k with
    | addFilter f =>
      rw [BuildCall.perform, Builder.addFilter, hopen] at hok ⊢
      cases hbound : b.controller? with
      | some name =>
        rw [hbound] at hok
        cases hok
      | none => exact Or.inl ⟨rfl, rfl⟩
    | addMapper kind m =>
      rw [BuildCall.perform, Builder.addMapper, hopen]
      exact Or.inl ⟨rfl, rfl⟩
    | setDefaultMapper m =>
      rw [BuildCall.perform, Builder.setDefaultMapper, hopen]
      exact Or.inl ⟨rfl, rfl⟩
    | addController c =>
      rw [BuildCall.perform, Builder.addController, hopen] at hok ⊢
      cases hbound : b.controller? with
      | some name =>
        rw [hbound] at hok
        cases hok
      | none =>
        refine Or.inr ⟨c, rfl, rfl, ?_⟩
        cases hadd : (b.registry.registerAll c.methods).result with
        | error e =>
          rw [hbound] at hok
          dsimp only at hok
          rw [hadd] at hok
          cases hok
        | ok u =>
          dsimp only
          rw [hadd]
          rfl
    | freeze =>
      rw [BuildCall.perform, Builder.freeze, hopen] at hok ⊢
      cases b.mappers.build with
      | error e => exact Or.inl ⟨rfl, rfl⟩
      | ok resolver => exact Or.inl ⟨rfl, rfl⟩

/-- **At most one controller is ever accepted**, and it is the one that is bound. -/
theorem controller_and_atMostOne (calls : List (BuildCall σ)) :
    (built calls).controller? = (acceptedControllers calls).head?.map Controller.name ∧
      (acceptedControllers calls).length ≤ 1 := by
  -- accepting keeps both: it binds a controller only where there is none
  let R : List (BuildCall σ) → Builder σ → Prop := fun done b =>
    b.controller? = (done.flatMap BuildCall.controllers).head?.map Controller.name ∧
      (done.flatMap BuildCall.controllers).length ≤ 1
  have hstart : R [] {} := ⟨rfl, Nat.zero_le 1⟩
  refine Construction.history_induction (c := construction) (R := R) ?_ hstart calls
  rintro done b k ⟨hbound, hone⟩ haccepted
  show _ = ((done ++ [k]).flatMap BuildCall.controllers).head?.map Controller.name ∧
    ((done ++ [k]).flatMap BuildCall.controllers).length ≤ 1
  rw [List.flatMap_append, List.flatMap_singleton]
  rcases controller_of_accepted haccepted with ⟨hnone, hafter⟩ | ⟨c, rfl, hnew, hafter⟩
  · rw [hnone, List.append_nil]
    exact ⟨hafter.trans hbound, hone⟩
  · have hempty : done.flatMap BuildCall.controllers = [] := by
      rw [hnew] at hbound
      exact List.head?_eq_none_iff.mp (Option.map_eq_none_iff.mp hbound.symm)
    rw [hempty]
    exact ⟨hafter, Nat.le_refl 1⟩

/-- The methods that are accepted are those of the controller. -/
theorem acceptedMethods_eq (calls : List (BuildCall σ)) :
    acceptedMethods calls = (acceptedControllers calls).flatMap Controller.methods := by
  have hcall : (BuildCall.methods : BuildCall σ → _) =
      fun k => k.controllers.flatMap Controller.methods := by
    funext k
    cases k with
    | addController c => exact (List.flatMap_singleton Controller.methods c).symm
    | _ => rfl
  rw [acceptedMethods, acceptedControllers, List.flatMap_assoc, hcall]

/-- A router is under construction until freezing is accepted. -/
theorem phase_built {calls : List (BuildCall σ)} (h : .freeze ∉ accepted calls) :
    (built calls).phase = .building :=
  (Production.open_after_iff (p := production) (b := {}) rfl calls).mpr h

/-- Either there is no controller, or there is one and it is bound. -/
theorem none_or_bound (calls : List (BuildCall σ)) :
    acceptedControllers calls = [] ∧ (built calls).controller? = none ∨
      ∃ c, acceptedControllers calls = [c] ∧ (built calls).controller? = some c.name := by
  obtain ⟨hcontroller, hone⟩ := controller_and_atMostOne calls
  cases hcs : acceptedControllers calls with
  | nil =>
    rw [hcs] at hcontroller
    exact Or.inl ⟨rfl, hcontroller⟩
  | cons c cs =>
    rw [hcs] at hone hcontroller
    obtain rfl : cs = [] := List.length_eq_zero_iff.mp (Nat.le_zero.mp (Nat.le_of_succ_le_succ hone))
    exact Or.inr ⟨c, rfl, hcontroller⟩

theorem bound (calls : List (BuildCall σ)) : Bound calls := by
  obtain ⟨hcontroller, hone⟩ := controller_and_atMostOne calls
  have hregistry : .freeze ∉ accepted calls →
      (built calls).registry.methods = (acceptedControllers calls).flatMap Controller.methods := by
    intro h
    rw [built_eq_together (phase_built h), ← acceptedMethods_eq]
    rfl
  refine ⟨hone, hcontroller, hregistry, fun h hmethods => ?_⟩
  rcases none_or_bound calls with ⟨hnone, -⟩ | hbound
  · rw [hregistry h, hnone] at hmethods
    exact absurd rfl hmethods
  · exact hbound

/-! ## The answers to calls -/

section Building

variable {b : Builder σ} (h : b.phase = .building)

include h

theorem result_addFilter (f : Filter σ) :
    ((BuildCall.addFilter f).perform b).result =
      match b.controller? with
      | some name => .error (.filterAfterController name)
      | none => .ok () := by
  rw [BuildCall.perform, Builder.addFilter, whileBuilding_of_building h]
  cases b.controller? with
  | some name => rfl
  | none => rfl

theorem result_addController (c : Controller σ) :
    ((BuildCall.addController c).perform b).result =
      match b.controller? with
      | some name => .error (.multipleControllers name c.name)
      | none =>
        match Method.firstRepeated? b.registry.names c.methods with
        | some m => .error (.duplicateMethod m.name)
        | none => .ok () := by
  rw [BuildCall.perform, Builder.addController, whileBuilding_of_building h, Registry.registerAll]
  cases b.controller? with
  | some name => rfl
  | none =>
    cases Method.firstRepeated? b.registry.names c.methods with
    | some m => rfl
    | none => rfl

theorem freeze_result_eq_error_iff (e : BuildError) :
    b.freeze.result = .error e ↔ b.mappers.default? = none ∧ e = .missingDefaultMapper := by
  rw [Builder.freeze, whileBuilding_of_building h, Mappers.build]
  cases b.mappers.default? with
  | none =>
    refine ⟨fun he => ⟨rfl, (Except.error.inj he).symm⟩, ?_⟩
    rintro ⟨-, rfl⟩
    rfl
  | some m =>
    constructor
    · intro he
      cases he
    · rintro ⟨hnone, -⟩
      cases hnone

end Building

/-- The first controller is refused only for its own methods. -/
theorem result_addController_first {calls : List (BuildCall σ)} (h : .freeze ∉ accepted calls)
    (hnone : acceptedControllers calls = []) (c : Controller σ) :
    ((BuildCall.addController c).perform (built calls)).result =
      match Method.firstRepeated? [] c.methods with
      | some m => .error (.duplicateMethod m.name)
      | none => .ok () := by
  obtain ⟨-, hcontroller, hregistry, -⟩ := bound calls
  rw [hnone] at hcontroller
  have hnames : (built calls).registry.names = [] := by
    rw [Registry.names, hregistry h, hnone]
    rfl
  rw [result_addController (phase_built h), hcontroller, hnames]
  rfl

/-- There is a mapper for all other failures once one was accepted. -/
theorem default?_mappersOf_eq_none_iff {calls : List (BuildCall σ)} :
    (mappersOf calls).default? = none ↔ ∀ m, .setDefaultMapper m ∉ calls := by
  rw [mappersOf_eq_table, Registration.default?_table, Registration.lastDefault?,
    List.getLast?_eq_none_iff, List.filterMap_eq_nil_iff, List.forall_mem_flatMap]
  constructor
  · intro hnone m hm
    have hdefault := hnone _ hm (.default m) List.mem_cons_self
    cases hdefault
  · intro hnone k hk reg hreg
    cases k with
    | addMapper kind m =>
      obtain rfl : reg = .kind kind m := List.mem_singleton.mp hreg
      rfl
    | setDefaultMapper m => exact absurd hk (hnone m)
    | _ => exact absurd hreg List.not_mem_nil

theorem answered (calls : List (BuildCall σ)) : Answered calls where
  afterFreeze hfrozen k := by
    have hclosed : (built calls).phase ≠ .building := fun hphase =>
      (Production.open_after_iff (p := production) (b := {}) rfl calls).mp hphase hfrozen
    rw [perform_of_frozen (phase_of_ne hclosed)]
  addFilter h f e := by
    rw [result_addFilter (phase_built h)]
    rcases none_or_bound calls with ⟨hnone, hcontroller⟩ | ⟨c, hc, hcontroller⟩
    · rw [hnone, hcontroller]
      exact ⟨fun he => (nomatch he), fun ⟨_, hmem, _⟩ => (nomatch hmem)⟩
    · rw [hc, hcontroller]
      refine ⟨fun he => ⟨c, List.mem_singleton_self c, (Except.error.inj he).symm⟩, ?_⟩
      rintro ⟨c', hc', rfl⟩
      rw [List.mem_singleton.mp hc']
  addController h c e := by
    rcases none_or_bound calls with ⟨hnone, -⟩ | ⟨c', hc', hcontroller⟩
    · rw [result_addController_first h hnone, hnone]
      cases hfind : Method.firstRepeated? [] c.methods with
      | none =>
        refine ⟨fun he => (nomatch he), ?_⟩
        rintro (⟨bound, hbound, -⟩ | ⟨-, m, hm, -⟩)
        · nomatch hbound
        · nomatch hfind.symm.trans (firstRepeated?_nil_eq_some_iff.mpr hm)
      | some m =>
        have hm := firstRepeated?_nil_eq_some_iff.mp hfind
        refine ⟨fun he => Or.inr ⟨rfl, m, hm, (Except.error.inj he).symm⟩, ?_⟩
        rintro (⟨bound, hbound, -⟩ | ⟨-, m', hm', rfl⟩)
        · nomatch hbound
        · obtain rfl := Option.some.inj (hfind.symm.trans (firstRepeated?_nil_eq_some_iff.mpr hm'))
          rfl
    · rw [result_addController (phase_built h), hcontroller, hc']
      refine ⟨fun he => Or.inl ⟨c', List.mem_singleton_self c', (Except.error.inj he).symm⟩, ?_⟩
      rintro (⟨bound, hbound, rfl⟩ | ⟨hnone, -⟩)
      · rw [List.mem_singleton.mp hbound]
      · nomatch hnone
  accepts h c := by
    rcases none_or_bound calls with ⟨hnone, -⟩ | ⟨c', hc', hcontroller⟩
    · rw [result_addController_first h hnone, ← firstRepeated?_nil_eq_none_iff]
      cases Method.firstRepeated? [] c.methods with
      | none => exact ⟨fun _ => ⟨hnone, rfl⟩, fun _ => rfl⟩
      | some m => exact ⟨fun hok => (nomatch hok), fun ⟨_, hfresh⟩ => (nomatch hfresh)⟩
    · rw [result_addController (phase_built h), hcontroller, hc']
      exact ⟨fun hok => (nomatch hok), fun ⟨hnone, _⟩ => (nomatch hnone)⟩
  freeze h e := by
    rw [freeze_result_eq_error_iff (phase_built h), ← default?_mappersOf_eq_none_iff,
      built_eq_together (phase_built h)]
    rfl
  addMapper h k m := by
    rw [BuildCall.perform, Builder.addMapper, whileBuilding_of_building (phase_built h)]
    rfl
  setDefaultMapper h m := by
    rw [BuildCall.perform, Builder.setDefaultMapper, whileBuilding_of_building (phase_built h)]
    rfl

/-! ## The frozen router -/

theorem service_of_freeze {calls : List (BuildCall σ)} {router : Router σ}
    (h : (built calls).freeze.result = .ok router) : router.service? = (built calls).controller? := by
  rw [Builder.freeze, whileBuilding_of_building (building_of_freeze h)] at h
  cases hbuild : (built calls).mappers.build with
  | error e =>
    rw [hbuild] at h
    nomatch h
  | ok resolver =>
    rw [hbuild] at h
    obtain rfl := Except.ok.inj h
    rfl

theorem serves {calls : List (BuildCall σ)} {router : Router σ}
    (h : (built calls).freeze.result = .ok router) : Serves calls router := by
  obtain ⟨resolver, hbuild, htable, hnodup⟩ := router_of_freeze h
  have hnames : router.table.names = (acceptedMethods calls).map Method.name := by
    rw [htable]
    rfl
  refine ⟨?_, ?_, ?_, ?_, resolver, ?_, Filter.wrap_mapFailures resolver, ?_⟩
  · rw [service_of_freeze h]
    exact (bound calls).controller
  · rw [hnames, acceptedMethods_eq, List.map_flatMap]
  · -- the table has one entry a method, and no two of them share a name
    intro name
    rw [hnames, List.mem_map, Option.isSome_iff_exists, htable]
    constructor
    · rintro ⟨c, hc⟩
      obtain ⟨m, hm, hname, -⟩ := (lookup_eq_some_iff hnodup).mp hc
      exact ⟨m, hm, hname⟩
    · rintro ⟨m, hm, hname⟩
      exact ⟨_, (lookup_eq_some_iff hnodup).mpr ⟨m, hm, hname, rfl⟩⟩
  · intro call bypass hunlisted
    rw [hnames] at hunlisted
    refine dispatch_of_forall_ne htable fun m hm hname => hunlisted ?_
    exact hname ▸ List.mem_map_of_mem hm
  · rw [mappersOf_eq_table] at hbuild
    exact nearest_mapperFor hbuild
  · intro c hc m hm call hname
    have hmem : m ∈ acceptedMethods calls := by
      rw [acceptedMethods_eq]
      exact List.mem_flatMap.mpr ⟨c, hc, hm⟩
    have hdispatch : router.dispatch false call
        = dispatched ((stages resolver (acceptedFilters calls) m.filters).compose m.callback) call :=
      dispatch_of_mem htable hnodup hmem hname
    refine ⟨?_, fun acts res => ?_⟩
    · rw [hdispatch, Chain.compose_stages]
    · rw [hdispatch]
      exact run_stages_iff

/-- **A service router serves one controller.**  Whatever calls are made on it: each is answered as the
    calls accepted before demand, there is never more than one controller, and once the router is frozen
    the methods of that controller, and no others, run behind all filters that were accepted. -/
theorem serves_one_controller (calls : List (BuildCall σ)) :
    Answered calls ∧ Bound calls ∧
      ∀ router, (built calls).freeze.result = .ok router → Serves calls router :=
  ⟨answered calls, bound calls, fun _ h => serves h⟩

/-- A filter that comes after the controller is refused, and a call goes through the one that came
    before. -/
theorem serves_one_controller_echo :
    let echo : Method Unit :=
      { name := "echo", callback := fun call => .done (.ok (.reply call.payload)) }
    let mapper : Mapper Reply := { reply := fun f => .exception "Failure" f.text }
    let calls := [.addFilter logging, .addController ⟨"Echo", [echo]⟩, .setDefaultMapper mapper]
    ((BuildCall.addFilter logging).perform (built calls)).result
        = .error (.filterAfterController "Echo") ∧
      ∃ router resolver, (built calls).freeze.result = .ok router ∧ router.table.names = ["echo"] ∧
        router.dispatch false { method := "echo" }
          = dispatched
              ((Filter.mapFailures resolver).wrap
                (Chain.compose [logging] ((Filter.mapFailures resolver).wrap echo.callback)))
              { method := "echo" } := by
  intro echo mapper calls
  have hfreeze : (built calls).freeze.result = .ok _ := rfl
  have hcontrollers : acceptedControllers calls = [⟨"Echo", [echo]⟩] := rfl
  have hbuilding : .freeze ∉ accepted calls := fun h => nomatch h
  obtain ⟨hanswered, -, hserves⟩ := serves_one_controller calls
  obtain ⟨-, hnames, -, -, resolver, -, -, hdispatch⟩ := hserves _ hfreeze
  have hrun := hdispatch ⟨"Echo", [echo]⟩ List.mem_cons_self echo List.mem_cons_self
    { method := "echo" } rfl
  refine ⟨?_, _, resolver, hfreeze, hnames, hrun.1⟩
  exact (hanswered.addFilter hbuilding logging _).mpr ⟨_, List.mem_cons_self, rfl⟩

end Switchyard.Rpc
