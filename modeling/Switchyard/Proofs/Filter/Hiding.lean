import Switchyard.Proofs.Filter.Stages

/-!
  What filters can tell of a callback that fails.

  Behind the inner stage that maps failures the outer stages see the replies of the resolver only.  If the
  resolver answers all failures that the callback comes to with one reply (`Resolver.Hides`), that is all
  they see.

  1. **What there is to tell.**  Of an account of a request the outer stages take part in the passages: the
     requests and outcomes that pass between them (`passages`).  These are told by the request and by what the
     filters find of the state and the record (`findings`), as far as they heed it (`Prog.HeedsOnly`).

  2. **The stage that hides.**  Whatever the callback fails with, the stage that maps failures in front of it leaves
     with the same reply, and nothing else of the failure passes it (`mapped_hides`).  An account in which the
     callback fails in one way can be told with any other way (`other_mapped`).

  3. **The stages in front.**  By induction on them, from the inside: they get the one reply, whatever they are
     (`left_with_hidden`); where they find alike they pass on the same in any two accounts (`same_passages`); and
     whatever they did in one account, they do in another one in which the callback fails in some other way
     (`other_account`).
-/

namespace Switchyard

/-! ## What programs heed -/

/-- What a program finds when it acts, aside from the answers that it gets. -/
inductive Finding (σ : Type) where
  | state (s : σ)
  | past (past : List Observation)

/-- Of what it finds the program only heeds how it sees it: what looks the same makes no difference to what
    it does. -/
def Prog.HeedsOnly {σ δ Q A α ω : Type} (see : Finding σ → ω) : Prog σ δ Q A α → Prop
  | done _ | halt => True
  | step _ k => (∀ s s', see (.state s) = see (.state s') → k s = k s') ∧ ∀ s, HeedsOnly see (k s)
  | note _ k | launch _ k | wait _ k => HeedsOnly see k
  | lookBack k =>
    (∀ past past', see (.past past) = see (.past past') → k past = k past') ∧ ∀ past, HeedsOnly see (k past)
  | ask _ k => ∀ a, HeedsOnly see (k a)

/-- As far as both lists go, they look the same. -/
def Alike {α ω : Type} (see : α → ω) (l l' : List α) : Prop :=
  ∀ (j : Nat) (a a' : α), l[j]? = some a → l'[j]? = some a' → see a = see a'

section Alike

variable {α ω : Type} {see : α → ω} {l l' r r' : List α}

theorem Alike.head {a a' : α} (h : Alike see (a :: l) (a' :: l')) : see a = see a' := h 0 a a' rfl rfl

theorem Alike.tail {a a' : α} (h : Alike see (a :: l) (a' :: l')) : Alike see l l' :=
  fun j b b' hb hb' => h (j + 1) b b' hb hb'

/-- What begins two lists that are alike is alike. -/
theorem Alike.left (h : Alike see (l ++ r) (l' ++ r')) : Alike see l l' := by
  intro j a a' ha ha'
  obtain ⟨hj, -⟩ := List.getElem?_eq_some_iff.mp ha
  obtain ⟨hj', -⟩ := List.getElem?_eq_some_iff.mp ha'
  exact h j a a' ((List.getElem?_append_left hj).trans ha) ((List.getElem?_append_left hj').trans ha')

/-- Behind what looks the same, lists look the same. -/
theorem Alike.right (h : Alike see (l ++ r) (l' ++ r')) (hl : l.map see = l'.map see) : Alike see r r' := by
  induction l generalizing l' with
  | nil =>
    obtain rfl := List.map_eq_nil_iff.mp hl.symm
    exact h
  | cons a l ih =>
    obtain ⟨a', l', rfl, -, hrest⟩ := List.map_eq_cons_iff.mp hl.symm
    exact ih h.tail hrest.symm

end Alike

/-- The failures are all answered with the same reply. -/
def Resolver.Hides {Rep : Type} (r : Resolver Rep) (hidden : Failure → Prop) (rep : Rep) : Prop :=
  ∀ f, hidden f → r.reply f = rep

/-! ## What accounts tell of the stages outside of one of them -/

variable {σ Req Rep ω : Type} {n i : Nat} {hidden hidden' : Failure → Prop} {see : Finding σ → ω}
  {es es' fs fs' : List (Entry σ Req Rep)}

/-- Does the entry tell what passes between stages, outside of the one with this number?  A stage is entered
    with what the stage outside of it passes on, and left with what this gets back. -/
def Entry.isPassage (n : Nat) : Entry σ Req Rep → Bool
  | enter .. => true
  | act .. => false
  | leave k _ => k < n

/-- What passes between the stages outside of the one with this number. -/
def passages (n : Nat) (es : List (Entry σ Req Rep)) : List (Entry σ Req Rep) :=
  es.filter (Entry.isPassage n)

/-- What an entry tells that a stage finds, if there is another one between that stage and the one with this
    number. -/
def Entry.found? (n : Nat) : Entry σ Req Rep → Option (Finding σ)
  | act k (.changed s _) => if k + 1 < n then some (.state s) else none
  | act k (.lookedBack past) => if k + 1 < n then some (.past past) else none
  | _ => none

/-- What the stages find that have another one between them and the one with this number. -/
def findings (n : Nat) (es : List (Entry σ Req Rep)) : List (Finding σ) := es.filterMap (Entry.found? n)

/-- The stage with this number is only left with failures of a sort. -/
def FailsAt (hidden : Failure → Prop) (n : Nat) (es : List (Entry σ Req Rep)) : Prop :=
  ∀ o, .leave n o ∈ es → ∃ f, o = .error f ∧ hidden f

/-- The stages outside of the one with this number pass on the same and find what looks the same. -/
structure SeenAlike (see : Finding σ → ω) (n : Nat) (es es' : List (Entry σ Req Rep)) : Prop where
  passed : passages n es = passages n es'
  found : (findings n es).map see = (findings n es').map see

/-- The fewer entries there are, the less has to fail. -/
theorem FailsAt.mono (h : FailsAt hidden n es) (hsub : es' ⊆ es) : FailsAt hidden n es' :=
  fun o ho => h o (hsub ho)

theorem FailsAt.tail {e : Entry σ Req Rep} (h : FailsAt hidden n (e :: es)) : FailsAt hidden n es :=
  h.mono (List.subset_cons_self e es)

/-- An entry in front that is not the end of a visit to this stage does not matter. -/
theorem FailsAt.cons (h : FailsAt hidden n es) {e : Entry σ Req Rep} (he : ∀ o, e ≠ .leave n o) :
    FailsAt hidden n (e :: es) := by
  intro o ho
  rcases List.mem_cons.mp ho with ho | ho
  · exact absurd ho.symm (he o)
  · exact h o ho

theorem FailsAt.enter (h : FailsAt hidden n es) (k : Nat) (q : Req) : FailsAt hidden n (.enter k q :: es) :=
  h.cons fun _ he => nomatch he

theorem FailsAt.append (h : FailsAt hidden n es) (h' : FailsAt hidden n es') :
    FailsAt hidden n (es ++ es') :=
  fun o ho => (List.mem_append.mp ho).elim (h o) (h' o)

/-- The passages of two accounts one after the other come one after the other. -/
theorem passages_append : passages n (es ++ es') = passages n es ++ passages n es' := List.filter_append ..

theorem passages_enter (k : Nat) (q : Req) : passages n (.enter k q :: es) = .enter k q :: passages n es := rfl

theorem passages_leave {k : Nat} (hk : k < n) (o : Outcome Rep) :
    passages n (.leave k o :: es) = .leave k o :: passages n es :=
  List.filter_cons_of_pos (decide_eq_true hk)

/-- What stage `n` itself is left with is no passage: that is the failure that is hidden. -/
theorem passages_leave_self (o : Outcome Rep) : passages n (.leave n o :: es) = passages n es := by
  have hself : ¬ (Entry.leave n o : Entry σ Req Rep).isPassage n = true := by
    rw [Entry.isPassage, decide_eq_true_eq]
    exact Nat.lt_irrefl n
  exact List.filter_cons_of_neg hself

/-- And so do the findings. -/
theorem findings_append : findings n (es ++ es') = findings n es ++ findings n es' := List.filterMap_append

theorem Entry.found?_changed (hi : i + 1 < n) (s s' : σ) :
    (act i (.changed s s') : Entry σ Req Rep).found? n = some (.state s) := if_pos hi

theorem Entry.found?_lookedBack (hi : i + 1 < n) (past : List Observation) :
    (act i (.lookedBack past) : Entry σ Req Rep).found? n = some (.past past) := if_pos hi

/-- A change of the state is a finding of the stage that makes it, if it stands in front of the mapping. -/
theorem findings_changed (hi : i + 1 < n) (s s' : σ) :
    findings n (.act i (.changed s s') :: es) = .state s :: findings n es :=
  List.filterMap_cons_some (Entry.found?_changed hi s s')

/-- So is a look at the record. -/
theorem findings_lookedBack (hi : i + 1 < n) (past : List Observation) :
    findings n (.act i (.lookedBack past) :: es) = .past past :: findings n es :=
  List.filterMap_cons_some (Entry.found?_lookedBack hi past)

/-- What passes in a visit: entering the stage, what passes inside of it, and leaving it. -/
theorem passages_visit (hi : i < n) (q : Req) (o : Outcome Rep) :
    passages n (.enter i q :: (es ++ Entry.leaving i (some o)))
      = .enter i q :: (passages n es ++ [.leave i o]) := by
  rw [passages_enter, passages_append, Entry.leaving, passages_leave hi]
  rfl

/-- A visit adds no findings of its own around those of the stages that it goes through. -/
theorem findings_visit (q : Req) (o : Outcome Rep) :
    findings n (.enter i q :: (es ++ Entry.leaving i (some o))) = findings n es :=
  findings_append.trans (List.append_nil _)

/-- Accounts that are seen alike may be put one after the other. -/
theorem SeenAlike.append (h : SeenAlike see n es es') (h' : SeenAlike see n fs fs') :
    SeenAlike see n (es ++ fs) (es' ++ fs') := by
  constructor
  · rw [passages_append, passages_append, h.passed, h'.passed]
  · rw [findings_append, findings_append, List.map_append, List.map_append, h.found, h'.found]

/-- An action in front of each account, with findings that look the same. -/
theorem SeenAlike.act (h : SeenAlike see n es es') {k : Nat} {a a' : Prog.Action σ Job}
    (ha : ((Entry.act k a : Entry σ Req Rep).found? n).map see
      = ((Entry.act k a' : Entry σ Req Rep).found? n).map see) :
    SeenAlike see n (.act k a :: es) (.act k a' :: es') := by
  have hfound := h.found
  refine ⟨h.passed, ?_⟩
  rw [findings, findings, List.map_filterMap, List.map_filterMap] at hfound ⊢
  rw [List.filterMap_cons, List.filterMap_cons, ha, hfound]

/-- And a visit may be put around them, with the same request and the same outcome. -/
theorem SeenAlike.visit (h : SeenAlike see n es es') (hi : i < n) (q : Req) (o : Outcome Rep) :
    SeenAlike see n (.enter i q :: (es ++ Entry.leaving i (some o)))
      (.enter i q :: (es' ++ Entry.leaving i (some o))) := by
  constructor
  · rw [passages_visit hi, passages_visit hi, h.passed]
  · rw [findings_visit, findings_visit, h.found]

/-- All entries are actions of one stage. -/
def OnlyActs (i : Nat) (es : List (Entry σ Req Rep)) : Prop := ∀ e ∈ es, ∃ a, e = .act i a

/-- Where a stage only acts, nothing passes. -/
theorem OnlyActs.passages (h : OnlyActs i es) : passages n es = [] := by
  refine List.filter_eq_nil_iff.mpr fun e he => ?_
  obtain ⟨a, rfl⟩ := h e he
  exact Bool.false_ne_true

/-- Nor do the stages in front of the mapping find anything, if it is one behind it. -/
theorem OnlyActs.findings (h : OnlyActs i es) (hi : n ≤ i + 1) : findings n es = [] := by
  refine List.filterMap_eq_nil_iff.mpr fun e he => ?_
  obtain ⟨a, rfl⟩ := h e he
  have hinside : ¬ i + 1 < n := Nat.not_lt.mpr hi
  cases a with
  | changed | lookedBack => exact if_neg hinside
  | noted | launched | waited => rfl

/-- Nor is there an outcome that would have to fail. -/
theorem OnlyActs.failsAt (h : OnlyActs i es) : FailsAt hidden n es := by
  intro o ho
  obtain ⟨a, ha⟩ := h _ ho
  nomatch ha

/-- A program that asks nothing only acts. -/
theorem onlyActs_of_runs {Q A α : Type} {next : Q → List (Entry σ Req Rep) → Option A → Prop}
    {p : Flow σ Q A α} {x : Option α} (h : Prog.Runs next (.act i) p es x)
    (hp : ∀ q, ¬ Prog.Asks p q) : OnlyActs i es := by
  intro e he
  rcases h.entryOf he with hact | ⟨q, -, -, hq, -⟩
  · exact hact
  · exact absurd hq (hp q)

/-! ## The stage that maps failures in front of the callback -/

/-- A failure can be settled. -/
theorem exists_settle {Q A : Type} {next : Q → List (Entry σ Req Rep) → Option A → Prop} (r : Resolver Rep)
    (f : Failure) : ∃ notes, Prog.Runs next (.act i) (Filter.settle r (.error f) : Flow σ Q A (Outcome Rep))
      notes (some (.ok (r.reply f))) := by
  rw [Filter.settle]
  induction Filter.mappingNotes r f with
  | nil => exact ⟨[], .done _⟩
  | cons o os ih =>
    obtain ⟨notes, h⟩ := ih
    exact ⟨_, .note h⟩

/-- It is settled with the reply of the resolver. -/
theorem eq_of_settle {Q A : Type} {next : Q → List (Entry σ Req Rep) → Option A → Prop} {r : Resolver Rep}
    {f : Failure} {o : Outcome Rep} (h : Prog.Runs next (.act i)
      (Filter.settle r (.error f) : Flow σ Q A (Outcome Rep)) es (some o)) : o = .ok (r.reply f) := by
  obtain ⟨u?, -, hr⟩ := Prog.runs_map_iff.mp h
  cases u? with
  | none => nomatch hr
  | some u => exact Option.some.inj hr

/-- Mapping failures heeds nothing that it could find. -/
theorem heedsOnly_mapFailures (r : Resolver Rep) (see : Finding σ → ω) (q : Req) :
    (Filter.mapFailures r q : Flow σ Req (Outcome Rep) (Outcome Rep)).HeedsOnly see := by
  rw [Filter.mapFailures_eq]
  intro o
  cases o with
  | ok rep => trivial
  | error f =>
    show Prog.HeedsOnly see ((Prog.observeAll (Filter.mappingNotes r f) :
      Flow σ Req (Outcome Rep) Unit).bind fun _ => .done (.ok (r.reply f) : Outcome Rep))
    induction Filter.mappingNotes r f with
    | nil => trivial
    | cons o os ih => exact ih

/-- **An account of the stage that maps failures and the callback behind it.** -/
theorem account_mapped_iff {callback : Handler σ Req Rep} {r : Resolver Rep} {q : Req} {o : Outcome Rep} :
    Chain.Account callback [Filter.mapFailures r] i q es (some o) ↔
      ∃ x inner notes, Prog.Runs (fun q _ _ => nomatch q) (.act (i + 1)) (callback q) inner (some x) ∧
        Prog.Runs (Chain.Account callback [] (i + 1)) (.act i) (Filter.settle r x) notes (some o) ∧
        es = .enter i q :: .enter (i + 1) q :: (inner ++ .leave (i + 1) x :: (notes ++ [.leave i o])) := by
  have hask : (Filter.mapFailures r q : Flow σ Req (Outcome Rep) (Outcome Rep)) = .ask q (Filter.settle r) :=
    Filter.mapFailures_eq r q
  constructor
  · rintro ⟨body, hbody, rfl⟩
    rw [hask] at hbody
    obtain ⟨x, es₁, notes, ⟨inner, hinner, rfl⟩, hsettle, rfl⟩ := Prog.runs_ask_iff.mp hbody
    refine ⟨x, inner, notes, hinner, hsettle, ?_⟩
    simp [Entry.leaving]
  · rintro ⟨x, inner, notes, hinner, hsettle, rfl⟩
    refine ⟨.enter (i + 1) q :: (inner ++ [.leave (i + 1) x]) ++ notes, ?_, ?_⟩
    · rw [hask]
      exact Prog.runs_ask_iff.mpr ⟨x, _, notes, ⟨inner, hinner, rfl⟩, hsettle, rfl⟩
    · simp [Entry.leaving]

section Mapped

variable {callback callback' : Handler σ Req Rep} {r : Resolver Rep} {rep : Rep} {q : Req}

/-- **A callback that only comes to hidden failures shows the one reply and nothing else.** -/
theorem mapped_hides (hhides : r.Hides hidden rep) {o : Outcome Rep}
    (h : Chain.Account callback [Filter.mapFailures r] i q es (some o)) (hfails : FailsAt hidden (i + 1) es) :
    o = .ok rep ∧ passages (i + 1) es = [.enter i q, .enter (i + 1) q, .leave i (.ok rep)] ∧
      findings (i + 1) es = [] := by
  obtain ⟨x, inner, notes, hinner, hsettle, rfl⟩ := account_mapped_iff.mp h
  obtain ⟨f, rfl, hf⟩ := hfails x (by simp)
  obtain rfl : o = .ok rep := (eq_of_settle hsettle).trans (congrArg _ (hhides f hf))
  have hinner_acts : OnlyActs (i + 1) inner := onlyActs_of_runs hinner fun q => q.elim
  have hnotes_acts : OnlyActs i notes := onlyActs_of_runs hsettle fun q => Filter.not_asks_settle r _
  refine ⟨rfl, ?_, ?_⟩
  · rw [passages_enter, passages_enter, passages_append, hinner_acts.passages, passages_leave_self,
      passages_append, hnotes_acts.passages, passages_leave (Nat.lt_succ_self i)]
    rfl
  · show findings (i + 1) (inner ++ .leave (i + 1) (.error f) :: (notes ++ [.leave i (.ok rep)])) = []
    rw [findings_append, hinner_acts.findings (Nat.le_succ _), List.nil_append]
    show findings (i + 1) (notes ++ [.leave i (.ok rep)]) = []
    rw [findings_append, hnotes_acts.findings (Nat.le_refl _)]
    rfl

/-- The callback may as well come to another failure that is hidden behind the same reply. -/
theorem other_mapped (hhides : r.Hides hidden rep) (hhides' : r.Hides hidden' rep) {o : Outcome Rep}
    (h : Chain.Account callback [Filter.mapFailures r] i q es (some o)) (hfails : FailsAt hidden (i + 1) es)
    {acts : List (Prog.Action σ Job)} {f : Failure} (hrun : Prog.Run (callback' q) acts (some (.error f)))
    (hf : hidden' f) :
    ∃ es', Chain.Account callback' [Filter.mapFailures r] i q es' (some o) ∧ FailsAt hidden' (i + 1) es' ∧
      SeenAlike see (i + 1) es es' := by
  obtain ⟨rfl, hpassages, hfindings⟩ := mapped_hides hhides h hfails
  obtain ⟨inner, hinner, -⟩ := (Prog.runs_read_iff (Entry.act?_act (i + 1)) fun q => q.elim).mp hrun
  obtain ⟨notes, hnotes⟩ : ∃ notes, Prog.Runs (Chain.Account callback' [] (i + 1)) (.act i)
      (Filter.settle r (.error f)) notes (some (.ok rep)) := hhides' f hf ▸ exists_settle r f
  have hother := account_mapped_iff.mpr ⟨_, inner, notes, hinner, hnotes, rfl⟩
  have hinner_acts : OnlyActs (i + 1) inner := onlyActs_of_runs hinner fun q => q.elim
  have hnotes_acts : OnlyActs i notes := onlyActs_of_runs hnotes fun q => Filter.not_asks_settle r _
  have hleaving : FailsAt hidden' (i + 1) (.leave (i + 1) (.error f) :: (notes ++ [.leave i (.ok rep)])) := by
    intro o ho
    rcases List.mem_cons.mp ho with ho | ho
    · obtain ⟨-, rfl⟩ := Entry.leave.inj ho
      exact ⟨f, rfl, hf⟩
    rcases List.mem_append.mp ho with ho | ho
    · exact hnotes_acts.failsAt o ho
    · obtain ⟨hi, -⟩ := Entry.leave.inj (List.mem_singleton.mp ho)
      omega
  have hfails' : FailsAt hidden' (i + 1) (.enter i q :: .enter (i + 1) q ::
      (inner ++ .leave (i + 1) (.error f) :: (notes ++ [.leave i (.ok rep)]))) :=
    ((hinner_acts.failsAt.append hleaving).enter (i + 1) q).enter i q
  obtain ⟨-, hpassages', hfindings'⟩ := mapped_hides hhides' hother hfails'
  exact ⟨_, hother, hfails', hpassages.trans hpassages'.symm, congrArg _ (hfindings.trans hfindings'.symm)⟩

end Mapped

/-! ## Stages in front of it -/

section Bodies

variable {α : Type} {next next' : Req → List (Entry σ Req Rep) → Option (Outcome Rep) → Prop}

/-- **A program does the same in two runs** in which it finds alike and what it asks is answered alike. -/
theorem Prog.HeedsOnly.same {p : Flow σ Req (Outcome Rep) α} (hp : p.HeedsOnly see) (hi : i + 1 < n)
    {x x' : α} (h : Prog.Runs next (.act i) p es (some x)) (h' : Prog.Runs next' (.act i) p es' (some x'))
    (hnext : ∀ {q es es' a a'}, next q es (some a) → next' q es' (some a') → FailsAt hidden n es →
      FailsAt hidden n es' → Alike see (findings n es) (findings n es') → a = a' ∧ SeenAlike see n es es')
    (hes : FailsAt hidden n es) (hes' : FailsAt hidden n es')
    (hfound : Alike see (findings n es) (findings n es')) : x = x' ∧ SeenAlike see n es es' := by
  induction p generalizing es es' with
  | done a =>
    obtain ⟨rfl, hnone | hx⟩ := Prog.runs_done_iff.mp h
    · nomatch hnone
    obtain ⟨rfl, hnone | hx'⟩ := Prog.runs_done_iff.mp h'
    · nomatch hnone
    exact ⟨Option.some.inj (hx.trans hx'.symm), rfl, rfl⟩
  | halt => nomatch h
  | step u k ih =>
    cases h with
    | step s h =>
      cases h' with
      | step s' h' =>
        rw [findings_changed hi, findings_changed hi] at hfound
        rw [hp.1 s' s hfound.head.symm] at h'
        obtain ⟨hx, halike⟩ := ih s (hp.2 s) h h' hes.tail hes'.tail hfound.tail
        refine ⟨hx, halike.act ?_⟩
        rw [Entry.found?_changed hi, Entry.found?_changed hi]
        exact congrArg some hfound.head
  | note o k ih =>
    cases h with
    | note h =>
      cases h' with
      | note h' =>
        obtain ⟨hx, halike⟩ := ih hp h h' hes.tail hes'.tail hfound
        exact ⟨hx, halike.act rfl⟩
  | lookBack k ih =>
    cases h with
    | lookBack past h =>
      cases h' with
      | lookBack past' h' =>
        rw [findings_lookedBack hi, findings_lookedBack hi] at hfound
        rw [hp.1 past' past hfound.head.symm] at h'
        obtain ⟨hx, halike⟩ := ih past (hp.2 past) h h' hes.tail hes'.tail hfound.tail
        refine ⟨hx, halike.act ?_⟩
        rw [Entry.found?_lookedBack hi, Entry.found?_lookedBack hi]
        exact congrArg some hfound.head
  | launch j k ih =>
    cases h with
    | launch h =>
      cases h' with
      | launch h' =>
        obtain ⟨hx, halike⟩ := ih hp h h' hes.tail hes'.tail hfound
        exact ⟨hx, halike.act rfl⟩
  | wait ms k ih =>
    cases h with
    | wait h =>
      cases h' with
      | wait h' =>
        obtain ⟨hx, halike⟩ := ih hp h h' hes.tail hes'.tail hfound
        exact ⟨hx, halike.act rfl⟩
  | ask q k ih =>
    obtain ⟨a, es₁, es₂, hq, hk, rfl⟩ := Prog.runs_ask_iff.mp h
    obtain ⟨a', es₁', es₂', hq', hk', rfl⟩ := Prog.runs_ask_iff.mp h'
    rw [findings_append, findings_append] at hfound
    obtain ⟨rfl, hanswer⟩ := hnext hq hq' (hes.mono (List.subset_append_left _ _))
      (hes'.mono (List.subset_append_left _ _)) hfound.left
    obtain ⟨hx, hrest⟩ := ih a (hp a) hk hk' (hes.mono (List.subset_append_right _ _))
      (hes'.mono (List.subset_append_right _ _)) (hfound.right hanswer.found)
    exact ⟨hx, hanswer.append hrest⟩

/-- **Whatever a program did in one run, it does in another** in which what it asks is answered alike. -/
theorem Prog.Runs.other {p : Flow σ Req (Outcome Rep) α} (all : List (Entry σ Req Rep))
    (hnext : ∀ {q es a}, es ⊆ all → next q es (some a) → FailsAt hidden n es →
      ∃ es', next' q es' (some a) ∧ FailsAt hidden' n es' ∧ SeenAlike see n es es')
    {x : α} (h : Prog.Runs next (.act i) p es (some x)) (hsub : es ⊆ all) (hes : FailsAt hidden n es) :
    ∃ es', Prog.Runs next' (.act i) p es' (some x) ∧ FailsAt hidden' n es' ∧ SeenAlike see n es es' := by
  generalize hx : some x = x? at h
  induction h with
  | stop p => nomatch hx
  | done a =>
    obtain rfl := Option.some.inj hx
    exact ⟨[], .done x, (fun o ho => nomatch ho), rfl, rfl⟩
  | step s _ ih =>
    obtain ⟨es', hrun, hfails, halike⟩ := ih (List.subset_of_cons_subset hsub) hes.tail hx
    exact ⟨_, .step s hrun, hfails.cons nofun, halike.act rfl⟩
  | note _ ih =>
    obtain ⟨es', hrun, hfails, halike⟩ := ih (List.subset_of_cons_subset hsub) hes.tail hx
    exact ⟨_, .note hrun, hfails.cons nofun, halike.act rfl⟩
  | lookBack past _ ih =>
    obtain ⟨es', hrun, hfails, halike⟩ := ih (List.subset_of_cons_subset hsub) hes.tail hx
    exact ⟨_, .lookBack past hrun, hfails.cons nofun, halike.act rfl⟩
  | launch _ ih =>
    obtain ⟨es', hrun, hfails, halike⟩ := ih (List.subset_of_cons_subset hsub) hes.tail hx
    exact ⟨_, .launch hrun, hfails.cons nofun, halike.act rfl⟩
  | wait _ ih =>
    obtain ⟨es', hrun, hfails, halike⟩ := ih (List.subset_of_cons_subset hsub) hes.tail hx
    exact ⟨_, .wait hrun, hfails.cons nofun, halike.act rfl⟩
  | asked h => nomatch hx
  | answered a hq _ ih =>
    obtain ⟨hsub₁, hsub₂⟩ := List.append_subset.mp hsub
    obtain ⟨es₁, hq', hfails₁, halike₁⟩ := hnext hsub₁ hq (hes.mono (List.subset_append_left _ _))
    obtain ⟨es₂, hrun, hfails₂, halike₂⟩ := ih hsub₂ (hes.mono (List.subset_append_right _ _)) hx
    exact ⟨es₁ ++ es₂, .answered a hq' hrun, hfails₁.append hfails₂, halike₁.append halike₂⟩

end Bodies

/-! ## A whole path -/

namespace Chain

variable {callback callback' : Handler σ Req Rep} {r : Resolver Rep} {rep : Rep}

/-- **The stage in front of the mapping gets the one reply and nothing else**, whatever the stages are. -/
theorem left_with_hidden (hhides : r.Hides hidden rep) {c : Chain σ Req Rep} {q : Req}
    {o? : Option (Outcome Rep)} (h : Account callback (c ++ [Filter.mapFailures r]) i q es o?)
    (hfails : FailsAt hidden (i + c.length + 1) es) {x : Outcome Rep} (hx : .leave (i + c.length) x ∈ es) :
    x = .ok rep := by
  induction c generalizing i q es o? with
  | nil =>
    rcases entry_of_account h hx with he | ⟨a, he⟩ | ⟨o, he, rfl⟩ | ⟨q', es', a?, -, hes', he, -⟩
    · nomatch he
    · nomatch he
    · obtain ⟨-, rfl⟩ := Entry.leave.inj he
      exact (mapped_hides hhides h hfails).1
    · have hle : i + 1 ≤ i := le_stage hes' he
      omega
  | cons f c ih =>
    have hlength : i + (f :: c).length = i + 1 + c.length := by
      rw [List.length_cons]
      omega
    rw [hlength] at hfails hx
    rcases entry_of_account h hx with he | ⟨a, he⟩ | ⟨o, he, -⟩ | ⟨q', es', a?, -, hes', he, hsub⟩
    · nomatch he
    · nomatch he
    · obtain ⟨hstage, -⟩ := Entry.leave.inj he
      omega
    · exact ih hes' (hfails.mono hsub) he

/-- **Stages that find alike pass on the same in any two accounts**, and come to the same: by induction on
    the stages from the outside. -/
theorem same_passages (hhides : r.Hides hidden rep) {c : Chain σ Req Rep}
    (hc : ∀ f ∈ c, ∀ q, (f q).HeedsOnly see) (hn : n = i + c.length + 1) {q : Req} {o o' : Outcome Rep}
    (h : Account callback (c ++ [Filter.mapFailures r]) i q es (some o))
    (h' : Account callback' (c ++ [Filter.mapFailures r]) i q es' (some o'))
    (hes : FailsAt hidden n es) (hes' : FailsAt hidden n es')
    (hfound : Alike see (findings n es) (findings n es')) : o = o' ∧ SeenAlike see n es es' := by
  induction c generalizing i q es es' o o' with
  | nil =>
    obtain rfl : n = i + 1 := hn
    obtain ⟨rfl, hpassages, hfindings⟩ := mapped_hides hhides h hes
    obtain ⟨rfl, hpassages', hfindings'⟩ := mapped_hides hhides h' hes'
    exact ⟨rfl, hpassages.trans hpassages'.symm, congrArg _ (hfindings.trans hfindings'.symm)⟩
  | cons f c ih =>
    obtain ⟨hf, hrest⟩ := List.forall_mem_cons.mp hc
    have hn' : n = i + 1 + c.length + 1 := by
      rw [hn, List.length_cons]
      omega
    obtain ⟨inner, hbody, rfl⟩ := h
    obtain ⟨inner', hbody', rfl⟩ := h'
    have hinner : inner ⊆ .enter i q :: (inner ++ Entry.leaving i (some o)) :=
      List.subset_cons_of_subset _ (List.subset_append_left _ _)
    have hinner' : inner' ⊆ .enter i q :: (inner' ++ Entry.leaving i (some o')) :=
      List.subset_cons_of_subset _ (List.subset_append_left _ _)
    rw [findings_visit, findings_visit] at hfound
    obtain ⟨rfl, halike⟩ :=
      (hf q).same (by omega) hbody hbody' (fun h h' => ih hrest hn' h h') (hes.mono hinner)
        (hes'.mono hinner') hfound
    exact ⟨rfl, halike.visit (by omega) q o⟩

/-- **Whatever the stages did in one account, they do in another** in which the callback comes to other
    failures that are hidden behind the same reply. -/
theorem other_account (hhides : r.Hides hidden rep) (hhides' : r.Hides hidden' rep) {c : Chain σ Req Rep}
    (hn : n = i + c.length + 1) {q : Req} {o : Outcome Rep}
    (h : Account callback (c ++ [Filter.mapFailures r]) i q es (some o)) (hes : FailsAt hidden n es)
    (hother : ∀ q, .enter n q ∈ es → ∃ acts f, Prog.Run (callback' q) acts (some (.error f)) ∧ hidden' f) :
    ∃ es', Account callback' (c ++ [Filter.mapFailures r]) i q es' (some o) ∧ FailsAt hidden' n es' ∧
      SeenAlike see n es es' := by
  induction c generalizing i q es o with
  | nil =>
    obtain rfl : n = i + 1 := hn
    obtain ⟨x, inner, notes, -, -, hes_eq⟩ := account_mapped_iff.mp h
    obtain ⟨acts, f, hrun, hf⟩ := hother q (by simp [hes_eq])
    exact other_mapped hhides hhides' h hes hrun hf
  | cons f c ih =>
    have hn' : n = i + 1 + c.length + 1 := by
      rw [hn, List.length_cons]
      omega
    obtain ⟨inner, hbody, rfl⟩ := h
    have hinner : inner ⊆ .enter i q :: (inner ++ Entry.leaving i (some o)) :=
      List.subset_cons_of_subset _ (List.subset_append_left _ _)
    obtain ⟨inner', hbody', hfails', halike⟩ :=
      hbody.other inner (fun hsub hq hfails => ih hn' hq hfails fun q hq' => hother q (hinner (hsub hq')))
        (List.Subset.refl _) (hes.mono hinner)
    have hleaving : FailsAt hidden' n (Entry.leaving i (some o) : List (Entry σ Req Rep)) := by
      intro x hx
      obtain ⟨hi, -⟩ := Entry.leave.inj (List.mem_singleton.mp hx)
      omega
    exact ⟨_, ⟨inner', hbody', rfl⟩, (hfails'.append hleaving).enter i q, halike.visit (by omega) q o⟩

end Chain
end Switchyard
