import Switchyard.Proofs.Build.Batches
import Switchyard.Proofs.Route.History
import Switchyard.Proofs.Rpc.History

/-!
  The two registries, batch by batch.

  Routes are registered under method, template and interface, methods under their names.  Both registries are
  catalogues, so that all there is to say of them was said of catalogues: no key is ever taken twice, a batch
  is taken as a whole or not at all, and it comes to what its items come to one by one.

  * `Route.catalogue`, `Rpc.catalogue` — what the registries do, as a catalogue each;
  * `registries_take_no_key_twice`.
-/

namespace Switchyard

variable {σ : Type}

namespace Route

/-- The routes under construction as a catalogue; along with a call come the global filters. -/
def catalogue : Catalogue (Http.Chain σ) (Registry σ) (Route σ) Key where
  keys := Registry.keys
  key := key
  refusal r := .duplicateRoute r.method r.template
  told := Registry.registeredEvent
  append global g rs := ⟨g.routes ++ rs.map fun r => ⟨r, global⟩⟩
  register global g r := g.register r global
  registerAll global g rs := g.registerAll rs global
  append_nil _ g := by rw [List.map_nil, List.append_nil]
  append_append _ g rs rs' := by rw [List.append_assoc, List.map_append]
  keys_append _ g rs := by
    show List.map _ (g.routes ++ _) = _
    rw [List.map_append, List.map_map]
    rfl
  register_eq global g r := by
    rw [Registry.register, Registry.registerAll, firstRepeated?]
    by_cases hr : r.key ∈ g.keys
    · rw [if_pos hr, if_pos hr]
    · rw [if_neg hr, if_neg hr]
      rfl
  registerAll_eq global g rs := by
    rw [Registry.registerAll, firstRepeated?_eq_firstTaken?]
    cases firstTaken? key g.keys rs with
    | none => rfl
    | some r => rfl

end Route

namespace Rpc

/-- A name is looked for among the methods as it is looked for among the names. -/
theorem any_name_iff {g : Registry σ} {name : String} :
    (g.methods.any fun m => m.name = name) = true ↔ name ∈ g.names := by
  rw [List.any_eq_true, Registry.names, List.mem_map]
  simp only [decide_eq_true_eq]

/-- The methods under construction as a catalogue; nothing comes along with a call. -/
def catalogue : Catalogue Unit (Registry σ) (Method σ) String where
  keys := Registry.names
  key := Method.name
  refusal m := .duplicateMethod m.name
  told _ := Registry.registeredEvent
  append _ g ms := ⟨g.methods ++ ms⟩
  register _ := Registry.register
  registerAll _ := Registry.registerAll
  append_nil _ g := by rw [List.append_nil]
  append_append _ g ms ms' := by rw [List.append_assoc]
  keys_append _ g ms := List.map_append
  register_eq _ g m := by
    rw [Registry.register]
    by_cases hm : m.name ∈ g.names
    · rw [if_pos hm, if_pos (any_name_iff.mpr hm)]
    · rw [if_neg hm, if_neg fun hany => hm (any_name_iff.mp hany)]
  registerAll_eq _ g ms := by
    rw [Registry.registerAll, Method.firstRepeated?_eq_firstTaken?]
    cases firstTaken? Method.name g.names ms with
    | none => rfl
    | some m => rfl

end Rpc

/-- **No key is ever taken twice, in either registry.**  Whatever is registered in a new one, no two routes of
    an interface share method and template, and no two methods share a name.  A batch is accepted exactly if its
    keys differ from each other and from those that are taken; then it is appended in order, and otherwise the
    first item whose key was taken before, or by an item in front of it, is named and nothing changes.  One by
    one, its items come to the same. -/
theorem registries_take_no_key_twice :
    (Route.catalogue (σ := σ)).NoKeyTwice {} ∧ (Rpc.catalogue (σ := σ)).NoKeyTwice {} :=
  ⟨Catalogue.noKeyTwice List.nodup_nil, Catalogue.noKeyTwice List.nodup_nil⟩

end Switchyard
