import Switchyard.Proofs.Program.Sessions

/-!
  Programs that come to an end.

  * `Prog.Tame`  — the program ends, and starts only jobs of a kind; this is kept by all ways of putting
    programs together;
  * `Prog.Plain` — moreover it does nothing but change the state and read the record, as its runs show
    (`Plain.of_run`).
-/

namespace Switchyard.Prog

variable {σ δ Q A Q' A' α β : Type} {ofJob : δ → Prop}

/-! ## Tame programs -/

/-- The program ends, and starts only jobs of a kind. -/
structure Tame (ofJob : δ → Prop) (p : Prog σ δ Q A α) : Prop where
  ends : p.Ends
  starts : p.StartsOnly ofJob

theorem tame_done (a : α) : (done a : Prog σ δ Q A α).Tame ofJob := ⟨trivial, trivial⟩

/-- Asking once is tame; what is asked has to be tame too once it is put in place of the question. -/
theorem tame_call (q : Q) : (call q : Prog σ δ Q A A).Tame ofJob := ⟨fun _ => trivial, fun _ => trivial⟩

theorem tame_step {u : σ → σ} {k : σ → Prog σ δ Q A α} (h : ∀ s, (k s).Tame ofJob) :
    (step u k).Tame ofJob :=
  ⟨fun s => (h s).ends, fun s => (h s).starts⟩

theorem tame_note {o : Observation} {k : Prog σ δ Q A α} (h : k.Tame ofJob) : (note o k).Tame ofJob :=
  ⟨h.ends, h.starts⟩

/-- Starting a job is tame if the job is of the kind. -/
theorem tame_launch {job : δ} (hjob : ofJob job) {k : Prog σ δ Q A α} (h : k.Tame ofJob) :
    (launch job k).Tame ofJob :=
  ⟨h.ends, hjob, h.starts⟩

/-- Programs one after the other are tame if each of them is. -/
theorem Tame.bind {p : Prog σ δ Q A α} (h : p.Tame ofJob) {f : α → Prog σ δ Q A β}
    (hf : ∀ a, (f a).Tame ofJob) : (p.bind f).Tame ofJob :=
  ⟨ends_bind h.ends fun a => (hf a).ends, startsOnly_bind h.starts fun a => (hf a).starts⟩

/-- So is a program with tame programs in place of its questions. -/
theorem Tame.answer {p : Prog σ δ Q A α} (h : p.Tame ofJob) {g : Q → Prog σ δ Q' A' A}
    (hg : ∀ q, (g q).Tame ofJob) : (p.answer g).Tame ofJob :=
  ⟨ends_answer h.ends fun q => (hg q).ends, startsOnly_answer h.starts fun q => (hg q).starts⟩

theorem tame_observeAll (os : List Observation) : (observeAll os : Prog σ δ Q A Unit).Tame ofJob :=
  ⟨ends_observeAll os, startsOnly_observeAll ofJob os⟩

/-! ## Plain programs -/

/-- The program does nothing but change the state and read the record, and it ends. -/
def Plain : Prog σ δ Q A α → Prop
  | done _ => True
  | step _ k => ∀ s, Plain (k s)
  | lookBack k => ∀ past, Plain (k past)
  | note .. | launch .. | wait .. | halt | ask .. => False

/-- The action changes the state, or reads the record. -/
def Action.isPlain : Action σ δ → Bool
  | changed .. | lookedBack _ => true
  | noted _ | launched _ | waited _ => false

/-- A plain program is tame, whatever the kind of jobs: it starts none. -/
theorem Plain.tame {p : Prog σ δ Q A α} (h : p.Plain) : p.Tame ofJob := by
  induction p with
  | done a => exact tame_done a
  | step u k ih => exact tame_step fun s => ih s (h s)
  | lookBack k ih => exact ⟨fun past => (ih past (h past)).ends, fun past => (ih past (h past)).starts⟩
  | note o k => exact h.elim
  | launch job k => exact h.elim
  | wait ms k => exact h.elim
  | halt => exact h.elim
  | ask q k => exact h.elim

/-- **A run of a plain program shows nothing but plain actions.** -/
theorem Plain.of_run {p : Prog σ δ Empty Empty α} (h : p.Plain) {acts : List (Action σ δ)} {r : Option α}
    (hrun : Run p acts r) : ∀ act ∈ acts, act.isPlain = true := by
  induction hrun with
  | stop p => nofun
  | done a => nofun
  | step s _ ih => exact List.forall_mem_cons.mpr ⟨rfl, ih (h s)⟩
  | lookBack past _ ih => exact List.forall_mem_cons.mpr ⟨rfl, ih (h past)⟩
  | note => exact h.elim
  | launch => exact h.elim
  | wait => exact h.elim
  | @asked q => exact q.elim
  | @answered q => exact q.elim

end Switchyard.Prog
