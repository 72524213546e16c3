import Switchyard.Program.Basic

/-!
  What programs do.

  A run of a program is told as the list of its single actions, each with what the program found when
  it acted: a state may be any state and a record any record, since other programs act in between.  A
  run may be told up to any point; it has a value once the program is over.

  Where a program asks, its run goes on inside whatever answers (`Prog.Runs`, over a relation that says
  how questions are answered).  A program without questions has runs of its own (`Prog.Run`).

  The main statements take runs of composed programs apart:

  * `runs_bind_iff` — a run of two programs in a row;
  * `runs_map_iff`  — a program whose value is changed has the same runs;
  * `run_noted_iff` — one that also leaves entries for its value has these at the end;
  * `run_answer_iff` — putting programs in place of questions is answering them by these programs.
-/

namespace Switchyard.Prog

/-- One action of a program, with what it found. -/
inductive Action (σ δ : Type) where
  /-- The state was the one and became the other. -/
  | changed (before after : σ)
  | noted (o : Observation)
  /-- The record was read, newest entry first. -/
  | lookedBack (past : List Observation)
  | launched (job : δ)
  | waited (ms : Nat)

variable {σ δ Q A Q' A' E E' α β : Type}

/-- The runs of a program, as far as they are told.  An action is told by `entry`; `next q es a?` says
    that answering `q` is told by `es` and gives the answer, if it is over. -/
inductive Runs (next : Q → List E → Option A → Prop) (entry : Action σ δ → E) :
    Prog σ δ Q A α → List E → Option α → Prop where
  /-- A run may be left at any point. -/
  | stop (p : Prog σ δ Q A α) : Runs next entry p [] none
  | done (a : α) : Runs next entry (.done a) [] (some a)
  | step {u k es r} (s : σ) (h : Runs next entry (k s) es r) :
      Runs next entry (.step u k) (entry (.changed s (u s)) :: es) r
  | note {o k es r} (h : Runs next entry k es r) :
      Runs next entry (.note o k) (entry (.noted o) :: es) r
  | lookBack {k es r} (past : List Observation) (h : Runs next entry (k past) es r) :
      Runs next entry (.lookBack k) (entry (.lookedBack past) :: es) r
  | launch {job k es r} (h : Runs next entry k es r) :
      Runs next entry (.launch job k) (entry (.launched job) :: es) r
  | wait {ms k es r} (h : Runs next entry k es r) :
      Runs next entry (.wait ms k) (entry (.waited ms) :: es) r
  /-- The answer is not there yet. -/
  | asked {q k es} (h : next q es none) : Runs next entry (.ask q k) es none
  | answered {q k es es' r} (a : A) (h : next q es (some a)) (h' : Runs next entry (k a) es' r) :
      Runs next entry (.ask q k) (es ++ es') r

/-- The runs of a program that asks nothing. -/
abbrev Run (p : Prog σ δ Empty Empty α) (acts : List (Action σ δ)) (r : Option α) : Prop :=
  Runs (fun q _ _ => nomatch q) id p acts r

/-- The questions that a program may come to ask. -/
inductive Asks : Prog σ δ Q A α → Q → Prop where
  | here (q : Q) (k : A → Prog σ δ Q A α) : Asks (.ask q k) q
  | step {u k q} (s : σ) (h : Asks (k s) q) : Asks (.step u k) q
  | note {o k q} (h : Asks k q) : Asks (.note o k) q
  | lookBack {k q} (past : List Observation) (h : Asks (k past) q) : Asks (.lookBack k) q
  | launch {job k q} (h : Asks k q) : Asks (.launch job k) q
  | wait {ms k q} (h : Asks k q) : Asks (.wait ms k) q
  | later {q' k q} (a : A) (h : Asks (k a) q) : Asks (.ask q' k) q

/-! ## Runs, node by node -/

section Nodes

variable {next : Q → List E → Option A → Prop} {entry : Action σ δ → E}

theorem runs_done_iff {a : α} {es : List E} {r : Option α} :
    Runs next entry (.done a) es r ↔ es = [] ∧ (r = none ∨ r = some a) := by
  constructor
  · intro h
    cases h with
    | stop => exact ⟨rfl, Or.inl rfl⟩
    | done => exact ⟨rfl, Or.inr rfl⟩
  · rintro ⟨rfl, rfl | rfl⟩
    · exact .stop _
    · exact .done a

theorem runs_note_iff {o : Observation} {k : Prog σ δ Q A α} {es : List E} {r : Option α} :
    Runs next entry (.note o k) es r ↔
      (es = [] ∧ r = none) ∨ ∃ es', Runs next entry k es' r ∧ es = entry (.noted o) :: es' := by
  constructor
  · intro h
    cases h with
    | stop => exact Or.inl ⟨rfl, rfl⟩
    | note h => exact Or.inr ⟨_, h, rfl⟩
  · rintro (⟨rfl, rfl⟩ | ⟨es', h, rfl⟩)
    · exact .stop _
    · exact .note h

theorem runs_ask_iff {q : Q} {k : A → Prog σ δ Q A α} {es : List E} {a : α} :
    Runs next entry (.ask q k) es (some a) ↔
      ∃ x es₁ es₂, next q es₁ (some x) ∧ Runs next entry (k x) es₂ (some a) ∧ es = es₁ ++ es₂ := by
  constructor
  · intro h
    cases h with
    | answered x hq hk => exact ⟨x, _, _, hq, hk, rfl⟩
  · rintro ⟨x, es₁, es₂, hq, hk, rfl⟩
    exact .answered x hq hk

/-- A run that is over may be told without its value. -/
theorem Runs.forget {p : Prog σ δ Q A α} {es : List E} {r : Option α} (h : Runs next entry p es r) :
    Runs next entry p es none := by
  induction h with
  | stop p => exact .stop p
  | done a => exact .stop _
  | step s _ ih => exact .step s ih
  | note _ ih => exact .note ih
  | lookBack past _ ih => exact .lookBack past ih
  | launch _ ih => exact .launch ih
  | wait _ ih => exact .wait ih
  | asked h => exact .asked h
  | answered a h _ ih => exact .answered a h ih

/-- Where an entry of a run comes from: it tells an action of the program, or it belongs to the answer
    to a question that the program asks. -/
def EntryOf (next : Q → List E → Option A → Prop) (entry : Action σ δ → E) (p : Prog σ δ Q A α)
    (es : List E) (e : E) : Prop :=
  (∃ act, e = entry act) ∨ ∃ q es' a?, Asks p q ∧ next q es' a? ∧ e ∈ es' ∧ es' ⊆ es

/-- The origin of an entry in the rest of a run is its origin in the whole run. -/
theorem EntryOf.later {p p' : Prog σ δ Q A α} {es es' : List E} {e : E}
    (h : EntryOf next entry p' es' e) (hasks : ∀ q, Asks p' q → Asks p q) (hsub : es' ⊆ es) :
    EntryOf next entry p es e := by
  rcases h with hact | ⟨q, inner, a?, hq, hinner, he, hin⟩
  · exact Or.inl hact
  · exact Or.inr ⟨q, inner, a?, hasks q hq, hinner, he, fun x hx => hsub (hin hx)⟩

/-- The entries of a run that begins with an action. -/
theorem EntryOf.cons {p p' : Prog σ δ Q A α} {act : Action σ δ} {es : List E} {e : E}
    (he : e ∈ entry act :: es) (ih : e ∈ es → EntryOf next entry p' es e)
    (hasks : ∀ q, Asks p' q → Asks p q) : EntryOf next entry p (entry act :: es) e := by
  rcases List.mem_cons.mp he with rfl | he
  · exact Or.inl ⟨act, rfl⟩
  · exact (ih he).later hasks (List.subset_cons_self _ _)

theorem Runs.entryOf {p : Prog σ δ Q A α} {es : List E} {r : Option α}
    (h : Runs next entry p es r) {e : E} (he : e ∈ es) : EntryOf next entry p es e := by
  induction h with
  | stop p => nomatch he
  | done a => nomatch he
  | step s _ ih => exact .cons he ih fun _ hq => .step s hq
  | note _ ih => exact .cons he ih fun _ hq => .note hq
  | lookBack past _ ih => exact .cons he ih fun _ hq => .lookBack past hq
  | launch _ ih => exact .cons he ih fun _ hq => .launch hq
  | wait _ ih => exact .cons he ih fun _ hq => .wait hq
  | asked hq => exact Or.inr ⟨_, _, _, .here _ _, hq, he, List.Subset.refl _⟩
  | answered a hq _ ih =>
    rcases List.mem_append.mp he with he | he
    · exact Or.inr ⟨_, _, _, .here _ _, hq, he, List.subset_append_left _ _⟩
    · exact (ih he).later (fun _ hq => .later a hq) (List.subset_append_right _ _)

/-! ## Programs in a row -/

/-- A run of the first program that is not over is a run of both. -/
theorem Runs.bind_none {p : Prog σ δ Q A α} {es : List E} (h : Runs next entry p es none)
    (f : α → Prog σ δ Q A β) : Runs next entry (p.bind f) es none := by
  generalize hr : (none : Option α) = r at h
  induction h with
  | stop p => exact .stop _
  | done a => nomatch hr
  | step s _ ih => exact .step s (ih hr)
  | note _ ih => exact .note (ih hr)
  | lookBack past _ ih => exact .lookBack past (ih hr)
  | launch _ ih => exact .launch (ih hr)
  | wait _ ih => exact .wait (ih hr)
  | asked h => exact .asked h
  | answered a h _ ih => exact .answered a h (ih hr)

/-- A run of the first program to its end and a run of the second from there. -/
theorem Runs.bind {p : Prog σ δ Q A α} {es es' : List E} {a : α} {r : Option β}
    (h : Runs next entry p es (some a)) {f : α → Prog σ δ Q A β}
    (h' : Runs next entry (f a) es' r) : Runs next entry (p.bind f) (es ++ es') r := by
  generalize ho : some a = o at h
  induction h with
  | stop p => nomatch ho
  | done b =>
    obtain rfl : a = b := Option.some.inj ho
    exact h'
  | step s _ ih => exact .step s (ih ho)
  | note _ ih => exact .note (ih ho)
  | lookBack past _ ih => exact .lookBack past (ih ho)
  | launch _ ih => exact .launch (ih ho)
  | wait _ ih => exact .wait (ih ho)
  | asked h => nomatch ho
  | answered b h _ ih =>
    rw [List.append_assoc]
    exact .answered b h (ih ho)

/-- A run of two programs in a row stops in the first, or goes through it and on in the second. -/
theorem runs_bind_iff {p : Prog σ δ Q A α} {f : α → Prog σ δ Q A β} {es : List E} {r : Option β} :
    Runs next entry (p.bind f) es r ↔
      (r = none ∧ Runs next entry p es none) ∨
      ∃ a es₁ es₂, Runs next entry p es₁ (some a) ∧ Runs next entry (f a) es₂ r ∧ es = es₁ ++ es₂ := by
  constructor
  · intro h
    -- along the first program: a run stops at its first node, or the rest of it is a run by induction
    induction p generalizing es with
    | done a => exact Or.inr ⟨a, [], es, .done a, h, rfl⟩
    | halt =>
      cases h with
      | stop => exact Or.inl ⟨rfl, .stop _⟩
    | step u k ih =>
      cases h with
      | stop => exact Or.inl ⟨rfl, .stop _⟩
      | step s h =>
        rcases ih s h with ⟨hr, h⟩ | ⟨a, es₁, es₂, h₁, h₂, rfl⟩
        · exact Or.inl ⟨hr, .step s h⟩
        · exact Or.inr ⟨a, _, es₂, .step s h₁, h₂, rfl⟩
    | note o k ih =>
      cases h with
      | stop => exact Or.inl ⟨rfl, .stop _⟩
      | note h =>
        rcases ih h with ⟨hr, h⟩ | ⟨a, es₁, es₂, h₁, h₂, rfl⟩
        · exact Or.inl ⟨hr, .note h⟩
        · exact Or.inr ⟨a, _, es₂, .note h₁, h₂, rfl⟩
    | lookBack k ih =>
      cases h with
      | stop => exact Or.inl ⟨rfl, .stop _⟩
      | lookBack past h =>
        rcases ih past h with ⟨hr, h⟩ | ⟨a, es₁, es₂, h₁, h₂, rfl⟩
        · exact Or.inl ⟨hr, .lookBack past h⟩
        · exact Or.inr ⟨a, _, es₂, .lookBack past h₁, h₂, rfl⟩
    | launch j k ih =>
      cases h with
      | stop => exact Or.inl ⟨rfl, .stop _⟩
      | launch h =>
        rcases ih h with ⟨hr, h⟩ | ⟨a, es₁, es₂, h₁, h₂, rfl⟩
        · exact Or.inl ⟨hr, .launch h⟩
        · exact Or.inr ⟨a, _, es₂, .launch h₁, h₂, rfl⟩
    | wait ms k ih =>
      cases h with
      | stop => exact Or.inl ⟨rfl, .stop _⟩
      | wait h =>
        rcases ih h with ⟨hr, h⟩ | ⟨a, es₁, es₂, h₁, h₂, rfl⟩
        · exact Or.inl ⟨hr, .wait h⟩
        · exact Or.inr ⟨a, _, es₂, .wait h₁, h₂, rfl⟩
    | ask q k ih =>
      cases h with
      | stop => exact Or.inl ⟨rfl, .stop _⟩
      | asked h => exact Or.inl ⟨rfl, .asked h⟩
      | answered b hb h =>
        rcases ih b h with ⟨hr, h⟩ | ⟨a, es₁, es₂, h₁, h₂, rfl⟩
        · exact Or.inl ⟨hr, .answered b hb h⟩
        · exact Or.inr ⟨a, _, es₂, .answered b hb h₁, h₂, (List.append_assoc ..).symm⟩
  · rintro (⟨rfl, h⟩ | ⟨a, es₁, es₂, h₁, h₂, rfl⟩)
    · exact h.bind_none f
    · exact h₁.bind h₂

/-- Changing the value of a program changes nothing else about its runs. -/
theorem runs_map_iff {p : Prog σ δ Q A α} {g : α → β} {es : List E} {r : Option β} :
    Runs next entry (p.bind fun a => .done (g a)) es r ↔
      ∃ o, Runs next entry p es o ∧ r = o.map g := by
  rw [runs_bind_iff]
  constructor
  · rintro (⟨rfl, h⟩ | ⟨a, es₁, es₂, h₁, h₂, rfl⟩)
    · exact ⟨none, h, rfl⟩
    · obtain ⟨rfl, rfl | rfl⟩ := runs_done_iff.mp h₂
      · exact ⟨none, by rw [List.append_nil]; exact h₁.forget, rfl⟩
      · exact ⟨some a, by rw [List.append_nil]; exact h₁, rfl⟩
  · rintro ⟨o, h, rfl⟩
    cases o with
    | none => exact Or.inl ⟨rfl, h⟩
    | some a => exact Or.inr ⟨a, es, [], h, .done _, (List.append_nil _).symm⟩

/-- The same, of runs to the end. -/
theorem runs_map_some_iff {p : Prog σ δ Q A α} {g : α → β} {es : List E} {b : β} :
    Runs next entry (p.bind fun a => .done (g a)) es (some b) ↔
      ∃ a, Runs next entry p es (some a) ∧ b = g a := by
  rw [runs_map_iff]
  constructor
  · rintro ⟨a?, hrun, hb⟩
    cases a? with
    | none => cases hb
    | some a => exact ⟨a, hrun, Option.some.inj hb⟩
  · rintro ⟨a, hrun, rfl⟩
    exact ⟨some a, hrun, rfl⟩

/-- Leaving entries in the record and going on with a program. -/
theorem runs_observeAll_bind_iff {os : List Observation} {p : Prog σ δ Q A α} {es : List E} {a : α} :
    Runs next entry ((observeAll os).bind fun _ => p) es (some a) ↔
      ∃ later, Runs next entry p later (some a) ∧ es = os.map (entry <| .noted ·) ++ later := by
  induction os generalizing es with
  | nil => exact ⟨fun h => ⟨es, h, (List.nil_append es).symm⟩, fun ⟨later, h, heq⟩ => heq.symm ▸ h⟩
  | cons o os ih =>
    refine Iff.trans runs_note_iff ?_
    constructor
    · rintro (⟨-, hnone⟩ | ⟨es', h, rfl⟩)
      · cases hnone
      · obtain ⟨later, hlater, rfl⟩ := ih.mp h
        exact ⟨later, hlater, rfl⟩
    · rintro ⟨later, h, rfl⟩
      exact Or.inr ⟨_, ih.mpr ⟨later, h, rfl⟩, rfl⟩

end Nodes

/-- The runs of a program that, once it has a value, leaves entries for it and gives another. -/
theorem run_noted_iff {p : Prog σ δ Empty Empty α} {notes : α → List Observation} {g : α → β}
    {acts : List (Action σ δ)} {b : β} :
    Run (p.bind fun a => (observeAll (notes a)).bind fun _ => .done (g a)) acts (some b) ↔
      ∃ a inner, Run p inner (some a) ∧ acts = inner ++ (notes a).map .noted ∧ b = g a := by
  constructor
  · intro h
    rcases runs_bind_iff.mp h with ⟨hnone, -⟩ | ⟨a, inner, noted, hinner, hnoted, rfl⟩
    · cases hnone
    · obtain ⟨later, hdone, rfl⟩ := runs_observeAll_bind_iff.mp hnoted
      obtain ⟨rfl, hnone | hb⟩ := runs_done_iff.mp hdone
      · cases hnone
      · exact ⟨a, inner, hinner, congrArg (inner ++ ·) (List.append_nil _), Option.some.inj hb⟩
  · rintro ⟨a, inner, hinner, rfl, rfl⟩
    refine hinner.bind (runs_observeAll_bind_iff.mpr ⟨[], .done _, ?_⟩)
    exact (List.append_nil _).symm

/-- What comes after a program only counts for the values that the program comes to. -/
theorem bind_congr_of_run {p : Prog σ δ Empty Empty α} {f g : α → Prog σ δ Empty Empty β}
    (h : ∀ acts a, Run p acts (some a) → f a = g a) : p.bind f = p.bind g := by
  induction p with
  | done a => exact h [] a (.done a)
  | halt => rfl
  | step u k ih => exact congrArg (step u) (funext fun s => ih s fun _ a ha => h _ a (.step s ha))
  | note o k ih => exact congrArg (note o) (ih fun _ a ha => h _ a (.note ha))
  | lookBack k ih =>
    exact congrArg lookBack (funext fun past => ih past fun _ a ha => h _ a (.lookBack past ha))
  | launch job k ih => exact congrArg (launch job) (ih fun _ a ha => h _ a (.launch ha))
  | wait ms k ih => exact congrArg (wait ms) (ih fun _ a ha => h _ a (.wait ha))
  | ask q k ih => exact q.elim

/-! ## Programs in place of questions -/

/-- Putting a program in place of every question is answering the questions by these programs. -/
theorem run_answer_iff {h : Q → Prog σ δ Empty Empty A} {p : Prog σ δ Q A α}
    {acts : List (Action σ δ)} {r : Option α} :
    Run (p.answer h) acts r ↔ Runs (fun q es a? => Run (h q) es a?) id p acts r := by
  constructor
  · intro hrun
    induction p generalizing acts with
    | done a =>
      obtain ⟨rfl, rfl | rfl⟩ := runs_done_iff.mp hrun
      · exact .stop _
      · exact .done a
    | halt =>
      cases hrun with
      | stop => exact .stop _
    | step u k ih =>
      cases hrun with
      | stop => exact .stop _
      | step s hrun => exact .step s (ih s hrun)
    | note o k ih =>
      cases hrun with
      | stop => exact .stop _
      | note hrun => exact .note (ih hrun)
    | lookBack k ih =>
      cases hrun with
      | stop => exact .stop _
      | lookBack past hrun => exact .lookBack past (ih past hrun)
    | launch j k ih =>
      cases hrun with
      | stop => exact .stop _
      | launch hrun => exact .launch (ih hrun)
    | wait ms k ih =>
      cases hrun with
      | stop => exact .stop _
      | wait hrun => exact .wait (ih hrun)
    | ask q k ih =>
      -- what stands in place of the question is run first, to its end or not
      rcases runs_bind_iff.mp hrun with ⟨rfl, hq⟩ | ⟨a, es₁, es₂, hq, hk, rfl⟩
      · exact .asked hq
      · exact .answered a hq (ih a hk)
  · intro hrun
    induction hrun with
    | stop p => exact .stop _
    | done a => exact .done a
    | step s _ ih => exact .step s ih
    | note _ ih => exact .note ih
    | lookBack past _ ih => exact .lookBack past ih
    | launch _ ih => exact .launch ih
    | wait _ ih => exact .wait ih
    | asked hq => exact Runs.bind_none hq _
    | answered a hq _ ih => exact Runs.bind hq ih

/-- If the entries of one way of telling are the readings of the entries of another, so are the
    runs. -/
theorem runs_read_iff {next : Q → List E → Option A → Prop} {next' : Q → List E' → Option A → Prop}
    {entry : Action σ δ → E} {entry' : Action σ δ → E'} {read : E' → Option E}
    (hentry : ∀ act, read (entry' act) = some (entry act))
    (hnext : ∀ q es a?, next q es a? ↔ ∃ es', next' q es' a? ∧ es = es'.filterMap read)
    {p : Prog σ δ Q A α} {es : List E} {r : Option α} :
    Runs next entry p es r ↔ ∃ es', Runs next' entry' p es' r ∧ es = es'.filterMap read := by
  have hcons : ∀ act es', (entry' act :: es').filterMap read = entry act :: es'.filterMap read :=
    fun act es' => List.filterMap_cons_some (hentry act)
  constructor
  · intro h
    induction h with
    | stop p => exact ⟨[], .stop p, rfl⟩
    | done a => exact ⟨[], .done a, rfl⟩
    | step s _ ih =>
      obtain ⟨es', h', rfl⟩ := ih
      exact ⟨_, .step s h', (hcons _ es').symm⟩
    | note _ ih =>
      obtain ⟨es', h', rfl⟩ := ih
      exact ⟨_, .note h', (hcons _ es').symm⟩
    | lookBack past _ ih =>
      obtain ⟨es', h', rfl⟩ := ih
      exact ⟨_, .lookBack past h', (hcons _ es').symm⟩
    | launch _ ih =>
      obtain ⟨es', h', rfl⟩ := ih
      exact ⟨_, .launch h', (hcons _ es').symm⟩
    | wait _ ih =>
      obtain ⟨es', h', rfl⟩ := ih
      exact ⟨_, .wait h', (hcons _ es').symm⟩
    | asked hq =>
      obtain ⟨es', hq', rfl⟩ := (hnext _ _ _).mp hq
      exact ⟨es', .asked hq', rfl⟩
    | answered a hq _ ih =>
      obtain ⟨es₁, hq', rfl⟩ := (hnext _ _ _).mp hq
      obtain ⟨es₂, h', rfl⟩ := ih
      exact ⟨es₁ ++ es₂, .answered a hq' h', List.filterMap_append.symm⟩
  · rintro ⟨es', h', rfl⟩
    induction h' with
    | stop p => exact .stop p
    | done a => exact .done a
    | step s _ ih => exact hcons _ _ ▸ .step s ih
    | note _ ih => exact hcons _ _ ▸ .note ih
    | lookBack past _ ih => exact hcons _ _ ▸ .lookBack past ih
    | launch _ ih => exact hcons _ _ ▸ .launch ih
    | wait _ ih => exact hcons _ _ ▸ .wait ih
    | asked hq => exact .asked ((hnext _ _ _).mpr ⟨_, hq, rfl⟩)
    | answered a hq _ ih =>
      rw [List.filterMap_append]
      exact .answered a ((hnext _ _ _).mpr ⟨_, hq, rfl⟩) ih

end Switchyard.Prog
