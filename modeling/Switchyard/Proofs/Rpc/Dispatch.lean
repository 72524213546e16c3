import Mathlib.Data.List.Nodup
import Switchyard.Proofs.Filter.Stages
import Switchyard.Proofs.Rpc.History

/-!
  Which method a call is dispatched to, and what dispatching it is.

  A table keeps its entries with the last one first, and of two with one name the last one counts; since
  no two methods share a name, a name is looked up to the one method that has it
  (`lookup_eq_some_iff`).  Dispatching a call is then an equation between programs, as it is for
  requests: `dispatch_of_mem`, `dispatch_of_forall_ne`.
-/

namespace Switchyard.Rpc

variable {σ : Type}

/-- The entry of a method in a table. -/
def Method.entry (outer : Chain σ) (m : Method σ) : String × Compiled σ :=
  (m.name, ⟨m.behind outer, m.callback⟩)

theorem entries_compile (g : Registry σ) (outer : Chain σ) :
    (g.compile outer).entries = (g.methods.map (Method.entry outer)).reverse := by
  show g.methods.foldl (fun es m => m.entry outer :: es) [] = _
  rw [List.foldl_flip_cons_eq_append, List.append_nil]

/-- The entry that is found under a name belongs to a method of that name. -/
theorem method_of_find? {g : Registry σ} {outer : Chain σ} {name : String}
    {e : String × Compiled σ}
    (h : (g.methods.map (Method.entry outer)).reverse.find? (fun e => e.1 = name) = some e) :
    ∃ m ∈ g.methods, m.name = name ∧ e = m.entry outer := by
  have hname := List.find?_some h
  obtain ⟨m, hm, rfl⟩ := List.mem_map.mp (List.mem_reverse.mp (List.mem_of_find?_eq_some h))
  exact ⟨m, hm, of_decide_eq_true hname, rfl⟩

/-- A name is looked up to the one method that has it. -/
theorem lookup_eq_some_iff {g : Registry σ} {outer : Chain σ} (hnodup : g.names.Nodup) {name : String}
    {c : Compiled σ} :
    (g.compile outer).lookup name = some c ↔
      ∃ m ∈ g.methods, m.name = name ∧ c = ⟨m.behind outer, m.callback⟩ := by
  rw [Table.lookup, entries_compile]
  constructor
  · intro h
    obtain ⟨e, hfind, rfl⟩ := Option.map_eq_some_iff.mp h
    obtain ⟨m, hm, hname, rfl⟩ := method_of_find? hfind
    exact ⟨m, hm, hname, rfl⟩
  · rintro ⟨m, hm, hname, rfl⟩
    cases hfind : (g.methods.map (Method.entry outer)).reverse.find? (fun e => e.1 = name) with
    | none =>
      have hentry : m.entry outer ∈ (g.methods.map (Method.entry outer)).reverse :=
        List.mem_reverse.mpr (List.mem_map_of_mem hm)
      exact absurd (decide_eq_true hname) (List.find?_eq_none.mp hfind _ hentry)
    | some e =>
      -- the entry that is found may be another one, but there is no other of this name
      obtain ⟨m', hm', hname', rfl⟩ := method_of_find? hfind
      have hsame : m' = m := List.inj_on_of_nodup_map hnodup hm' hm (hname'.trans hname.symm)
      rw [hsame]
      rfl

/-- A name that no method has is not found. -/
theorem lookup_eq_none {g : Registry σ} {outer : Chain σ} {name : String}
    (h : ∀ m ∈ g.methods, m.name ≠ name) : (g.compile outer).lookup name = none := by
  rw [Table.lookup, entries_compile]
  cases hfind : (g.methods.map (Method.entry outer)).reverse.find? (fun e => e.1 = name) with
  | none => rfl
  | some e =>
    obtain ⟨m, hm, hname, -⟩ := method_of_find? hfind
    exact absurd hname (h m hm)

/-- There is a method of a name, or there is none. -/
theorem named_or_unnamed (methods : List (Method σ)) (name : String) :
    (∃ m ∈ methods, m.name = name) ∨ ∀ m ∈ methods, m.name ≠ name := by
  by_cases h : ∃ m ∈ methods, m.name = name
  · exact Or.inl h
  · exact Or.inr fun m hm hname => h ⟨m, hm, hname⟩

/-! ## Dispatching -/

/-- What dispatching a call that no method answers comes to. -/
def notFound (call : Call) : Flow σ Empty Empty (Except DispatchError Reply) :=
  refused
    [.event ⟨.debug, "No Thrift method matched", [("method", .text call.method)]⟩,
     .metric .methodNotFound]
    (.methodNotFound call.method)

theorem dispatch_of_lookup {router : Router σ} {bypass : Bool} {call : Call} {c : Compiled σ}
    (h : router.table.lookup call.method = some c) :
    router.dispatch bypass call = dispatched (c.selected bypass) call := by
  rw [Router.dispatch, h]
  refine congrArg (Prog.bind _) (funext fun outcome => ?_)
  cases outcome with
  | ok rep => rfl
  | error f => rfl

section Frozen

variable {methods : List (Method σ)} {global : Chain σ} {router : Router σ} {resolver : Resolver Reply}

/-- Dispatching a call to the method of its name: the callback alone, or behind the stages. -/
theorem dispatch_of_mem
    (htable : router.table = Registry.compile ⟨methods⟩ (around resolver global))
    (hnodup : (methods.map Method.name).Nodup) {bypass : Bool} {call : Call} {m : Method σ}
    (hm : m ∈ methods) (hname : m.name = call.method) :
    router.dispatch bypass call
      = dispatched ((stagesFor bypass resolver global m.filters).compose m.callback) call := by
  have hlookup : router.table.lookup call.method
      = some ⟨m.behind (around resolver global), m.callback⟩ := by
    rw [htable]
    exact (lookup_eq_some_iff hnodup).mpr ⟨m, hm, hname, rfl⟩
  rw [dispatch_of_lookup hlookup]
  cases bypass with
  | true => rfl
  | false =>
    show dispatched (m.behind (around resolver global)) call = _
    rw [Method.behind, around, List.append_assoc, List.append_assoc]
    rfl

theorem dispatch_of_forall_ne
    (htable : router.table = Registry.compile ⟨methods⟩ (around resolver global))
    {bypass : Bool} {call : Call} (h : ∀ m ∈ methods, m.name ≠ call.method) :
    router.dispatch bypass call = notFound call := by
  have hlookup : router.table.lookup call.method = none := by
    rw [htable]
    exact lookup_eq_none h
  rw [Router.dispatch, hlookup]
  rfl

end Frozen

end Switchyard.Rpc
