import Switchyard.Proofs.Route.History
import Switchyard.Proofs.Rpc.History

/-!
  Building goes on past a call that is refused as if that call had not been made.

  Both routers are productions, which are steady (`Production.steady`): a refused call changes nothing,
  and nothing changes once the router is frozen.  An HTTP router has mappers from the beginning, so
  freezing it succeeds the first time (`Route.exists_router_of_freeze`).
-/

namespace Switchyard

variable {σ : Type}

/-- The first freezing of an HTTP router succeeds. -/
theorem Route.exists_router_of_freeze {calls : List (BuildCall σ)} (h : .freeze ∉ calls) :
    ∃ router, (built calls).freeze.result = .ok router := by
  have hphase : (built calls).phase = .building := by
    refine (Production.open_after_iff (p := production) (b := {}) rfl calls).mpr ?_
    exact fun hfreeze => h (Construction.accepted_sublist.mem hfreeze)
  have hdefault : Registration.default defaultMapper
      ∈ initialRegistrations ++ (accepted calls).flatMap BuildCall.registrations :=
    List.mem_append_left _ (List.mem_cons_of_mem _ List.mem_cons_self)
  obtain ⟨resolver, hbuild⟩ := Registration.exists_build hdefault
  rw [← mappersOf_eq_table] at hbuild
  have hmappers : (together (accepted calls)).mappers.build = .ok resolver := hbuild
  rw [Builder.freeze, whileBuilding_of_building hphase, built_eq_together hphase, hmappers]
  exact ⟨_, rfl⟩

/-- **A call that is refused changes nothing.**  Whatever was called before on either kind of router, the
    builder is left as it was, all calls after it are answered as if it had not been made, and the router
    that is given in the end is the same (`Production.Steady`).  An HTTP router can be frozen at any time;
    once a router is frozen every call is refused, and the router stays what it is. -/
theorem refused_calls_change_nothing :
    (Route.production (σ := σ)).Steady {} ∧ (Rpc.production (σ := σ)).Steady {} ∧
      ∀ calls : List (Route.BuildCall σ), .freeze ∉ calls →
        ∃ router, (Route.built calls).freeze.result = .ok router :=
  ⟨Route.production.steady {}, Rpc.production.steady {}, fun _ h => Route.exists_router_of_freeze h⟩

/-- A batch of which the second route is taken, and a freezing that comes too early: neither leaves a
    trace in the router that is frozen afterwards. -/
theorem refused_calls_change_nothing_batch :
    let ping : Route Unit :=
      { name := "ping", method := "GET", pattern := .constant "/ping"
        callback := fun _ => .done (.error (.ofMessage "no pong")) }
    let pong : Route Unit := { ping with name := "pong", pattern := .constant "/pong" }
    let batch : Route.BuildCall Unit := .addController ⟨"Pings", .ok [pong, ping]⟩
    let mapper : Mapper Rpc.Reply := { reply := fun f => .exception "Failure" f.text }
    let later : List (Rpc.BuildCall Unit) := [.setDefaultMapper mapper, .freeze]
    (∃ router,
      Route.production.session ⟨{}, none⟩ ([.add ping] ++ batch :: [.addFilter logging, .freeze])
          = ⟨Route.built [.add ping, .addFilter logging, .freeze], some router⟩ ∧
        router.routes = [ping.info]) ∧
      Rpc.production.session ⟨{}, none⟩ ([] ++ .freeze :: later)
        = Rpc.production.session ⟨{}, none⟩ later := by
  intro ping pong batch mapper later
  obtain ⟨hhttp, hrpc, hfreeze⟩ := refused_calls_change_nothing (σ := Unit)
  obtain ⟨router, hrouter⟩ := hfreeze [.add ping, .addFilter logging] (by intro h; nomatch h)
  obtain rfl : _ = router := Except.ok.inj hrouter
  have hbatch := hhttp.left [.add ping] batch (.duplicateRoute "GET" "/ping")
    [.addFilter logging, .freeze] rfl
  exact ⟨⟨_, hbatch, rfl⟩, hrpc.left [] .freeze .missingDefaultMapper later rfl⟩

end Switchyard
