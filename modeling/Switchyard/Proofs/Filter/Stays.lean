import Mathlib.Algebra.BigOperators.Group.List.Basic
import Mathlib.Data.List.Forall2
import Mathlib.Tactic.Choose
import Switchyard.Proofs.Filter.Account

/-!
  The stays of a request in a part of its path.

  Whenever a stage runs the rest of the path, a request comes into the stages behind it; what is told of them
  from there on, up to their outcome, is a stay (`Stay`).  Of an account all that concerns the stages from some
  number on are the stays there, one after the other, each told by an account of its own (`Chain.Stays`).

  1. **How often a filter asks.**  A filter may run the rest of the path a fixed number of times, whatever it gets
     back (`Prog.AsksTimes`); this is kept by putting programs one after the other, where the numbers add up.

  2. **Cutting an account.**  The entries of an account from some stage on (`toldFrom`) are those of the visits
     that the stage in front of it makes.  By induction on the stages outside, they are stays
     (`Chain.exists_stays`): if the account is over, so are they, and there are as many as the product of the
     numbers of the filters outside.

  3. **Counting.**  Each stay enters its first stage once, so that this product says how often a stage is entered
     (`Chain.entered_of_stays`).
-/

namespace Switchyard

namespace Prog

variable {σ δ Q A α β : Type}

/-- The program comes to an end and asks so many times on the way, whatever it finds and whatever the answers
    are. -/
def AsksTimes : Prog σ δ Q A α → Nat → Prop
  | done _, n => n = 0
  | halt, _ => False
  | step _ k, n => ∀ s, AsksTimes (k s) n
  | note _ k, n => AsksTimes k n
  | lookBack k, n => ∀ past, AsksTimes (k past) n
  | launch _ k, n => AsksTimes k n
  | wait _ k, n => AsksTimes k n
  | ask _ _, 0 => False
  | ask _ k, n + 1 => ∀ a, AsksTimes (k a) n

theorem asksTimes_done (a : α) : (done a : Prog σ δ Q A α).AsksTimes 0 := rfl

theorem asksTimes_call (q : Q) : (call q : Prog σ δ Q A A).AsksTimes 1 := fun _ => rfl

theorem asksTimes_observeAll (os : List Observation) : (observeAll os : Prog σ δ Q A Unit).AsksTimes 0 := by
  induction os with
  | nil => rfl
  | cons o os ih => exact ih

theorem AsksTimes.bind {p : Prog σ δ Q A α} {m n : Nat} (hp : p.AsksTimes m) {f : α → Prog σ δ Q A β}
    (hf : ∀ a, (f a).AsksTimes n) : (p.bind f).AsksTimes (m + n) := by
  induction p generalizing m with
  | done a =>
    obtain rfl : m = 0 := hp
    rw [Nat.zero_add]
    exact hf a
  | halt => exact hp.elim
  | step u k ih => exact fun s => ih s (hp s)
  | note o k ih => exact ih hp
  | lookBack k ih => exact fun past => ih past (hp past)
  | launch j k ih => exact ih hp
  | wait ms k ih => exact ih hp
  | ask q k ih =>
    cases m with
    | zero => exact hp.elim
    | succ m =>
      rw [Nat.succ_add]
      exact fun a => ih a (hp a)

/-- A program that asks no times asks nothing. -/
theorem AsksTimes.not_asks {p : Prog σ δ Q A α} (hp : p.AsksTimes 0) {q : Q} : ¬ p.Asks q := by
  intro h
  induction h with
  | here q k => exact hp
  | step s _ ih => exact ih (hp s)
  | note _ ih => exact ih hp
  | lookBack past _ ih => exact ih (hp past)
  | launch _ ih => exact ih hp
  | wait _ ih => exact ih hp
  | later a _ _ => exact hp

end Prog

variable {σ Req Rep : Type}

/-- A stay: the request that comes in, what is told of it from there on, and the outcome, if it is over. -/
structure Stay (σ Req Rep : Type) where
  req : Req
  entries : List (Entry σ Req Rep)
  outcome? : Option (Outcome Rep)

/-- The request that a stage is entered with, if the entry tells that. -/
def Entry.entered? (i : Nat) : Entry σ Req Rep → Option Req
  | enter k q => if k = i then some q else none
  | act .. | leave .. => none

namespace Chain

/-- What an account tells of the stages from a number on. -/
def toldFrom (n : Nat) (es : List (Entry σ Req Rep)) : List (Entry σ Req Rep) :=
  es.filter fun e => n ≤ e.stage

/-- Stays in a chain and the handler behind it, one after the other: what is told of these stages is what is
    told of the stays, and each of them has an account. -/
structure Stays (terminal : Handler σ Req Rep) (c : Chain σ Req Rep) (i : Nat) (stays : List (Stay σ Req Rep))
    (es : List (Entry σ Req Rep)) : Prop where
  accounts : ∀ stay ∈ stays, Account terminal c i stay.req stay.entries stay.outcome?
  told : toldFrom i es = stays.flatMap Stay.entries

/-- All of the stays are over. -/
def AllOver (stays : List (Stay σ Req Rep)) : Prop := ∀ stay ∈ stays, ∃ o, stay.outcome? = some o

section

variable {terminal : Handler σ Req Rep} {c outer : Chain σ Req Rep} {i n : Nat} {req : Req}
  {es : List (Entry σ Req Rep)} {r : Option (Outcome Rep)}

theorem toldFrom_append (n : Nat) (es es' : List (Entry σ Req Rep)) :
    toldFrom n (es ++ es') = toldFrom n es ++ toldFrom n es' := List.filter_append ..

theorem toldFrom_cons_of_lt {e : Entry σ Req Rep} (he : e.stage < n) (es : List (Entry σ Req Rep)) :
    toldFrom n (e :: es) = toldFrom n es :=
  List.filter_cons_of_neg (by rw [decide_eq_true_eq]; exact Nat.not_le_of_lt he)

theorem toldFrom_toldFrom {m : Nat} (hmn : m ≤ n) (es : List (Entry σ Req Rep)) :
    toldFrom n (toldFrom m es) = toldFrom n es := by
  rw [toldFrom, toldFrom, List.filter_filter]
  refine List.filter_congr fun e _ => ?_
  rw [← Bool.decide_and]
  exact decide_eq_decide.mpr ⟨And.left, fun h => ⟨h, Nat.le_trans hmn h⟩⟩

/-- All of an account is told of the stages from its first on. -/
theorem toldFrom_account (h : Account terminal c i req es r) : toldFrom i es = es :=
  List.filter_eq_self.mpr fun _ he => decide_eq_true (le_stage h he)

/-- What is told of the stages inside of a visit is told by what is done there. -/
theorem toldFrom_visit (hn : i < n) (req : Req) (inner : List (Entry σ Req Rep)) (r : Option (Outcome Rep)) :
    toldFrom n (.enter i req :: (inner ++ Entry.leaving i r)) = toldFrom n inner := by
  rw [toldFrom_cons_of_lt hn, toldFrom_append]
  cases r with
  | none => exact List.append_nil _
  | some o =>
    rw [Entry.leaving, toldFrom_cons_of_lt hn]
    exact List.append_nil _

/-- One stay in front of others. -/
theorem Stays.cons {stay : Stay σ Req Rep} {stays : List (Stay σ Req Rep)}
    (hstay : Account terminal c i stay.req stay.entries stay.outcome?) (h : Stays terminal c i stays es) :
    Stays terminal c i (stay :: stays) (stay.entries ++ es) where
  accounts := List.forall_mem_cons.mpr ⟨hstay, h.accounts⟩
  told := by rw [toldFrom_append, toldFrom_account hstay, h.told, List.flatMap_cons]

theorem Stays.nil : Stays terminal c i [] [] := ⟨List.forall_mem_nil _, rfl⟩

/-- What a stage does tells nothing of the stages inside. -/
theorem Stays.act {stays : List (Stay σ Req Rep)} (h : Stays terminal c (i + 1) stays es)
    (a : Prog.Action σ Job) : Stays terminal c (i + 1) stays (.act i a :: es) :=
  ⟨h.accounts, (toldFrom_cons_of_lt (Nat.lt_succ_self i) es).trans h.told⟩

/-- Whenever a stage asks, a stay begins in the chain behind it; if the stage is over, so are the stays. -/
theorem stays_of_runs {α : Type} {p : Flow σ Req (Outcome Rep) α} {x : Option α}
    (h : Prog.Runs (Account terminal c (i + 1)) (.act i) p es x) :
    ∃ stays, Stays terminal c (i + 1) stays es ∧
      ∀ a, x = some a → AllOver stays ∧ ∀ n, p.AsksTimes n → stays.length = n := by
  induction h with
  | stop p => exact ⟨[], .nil, fun a ha => nomatch ha⟩
  | done a => exact ⟨[], .nil, fun _ _ => ⟨List.forall_mem_nil _, fun n hn => Eq.symm hn⟩⟩
  | step s _ ih =>
    obtain ⟨stays, hstays, hover⟩ := ih
    exact ⟨stays, hstays.act _, fun a ha => (hover a ha).imp_right fun hcount n hn => hcount n (hn s)⟩
  | note _ ih =>
    obtain ⟨stays, hstays, hover⟩ := ih
    exact ⟨stays, hstays.act _, hover⟩
  | lookBack past _ ih =>
    obtain ⟨stays, hstays, hover⟩ := ih
    exact ⟨stays, hstays.act _, fun a ha => (hover a ha).imp_right fun hcount n hn => hcount n (hn past)⟩
  | launch _ ih =>
    obtain ⟨stays, hstays, hover⟩ := ih
    exact ⟨stays, hstays.act _, hover⟩
  | wait _ ih =>
    obtain ⟨stays, hstays, hover⟩ := ih
    exact ⟨stays, hstays.act _, hover⟩
  | @asked q k es hq =>
    have hone : Stays terminal c (i + 1) [⟨q, es, none⟩] (es ++ []) := Stays.nil.cons hq
    rw [List.append_nil] at hone
    exact ⟨_, hone, fun a ha => nomatch ha⟩
  | @answered q k es es' x a hq _ ih =>
    obtain ⟨stays, hstays, hover⟩ := ih
    refine ⟨⟨q, es, some a⟩ :: stays, hstays.cons hq, fun b hb => ?_⟩
    obtain ⟨hothers, hcount⟩ := hover b hb
    refine ⟨List.forall_mem_cons.mpr ⟨⟨a, rfl⟩, hothers⟩, fun n hn => ?_⟩
    cases n with
    | zero => exact hn.elim
    | succ n => exact congrArg (· + 1) (hcount n (hn a))

/-- **What is told of the stages from a number on are stays there.**  In an account that is over, so are they,
    and every filter outside multiplies their number. -/
theorem exists_stays (h : Account terminal (outer ++ c) i req es r) :
    ∃ stays, Stays terminal c (i + outer.length) stays es ∧ ∀ o, r = some o → AllOver stays ∧
      ∀ times, List.Forall₂ (fun f k => ∀ q, (f q).AsksTimes k) outer times → stays.length = times.prod := by
  induction outer generalizing i req es r with
  | nil =>
    refine ⟨[⟨req, es, r⟩], ⟨List.forall_mem_singleton.mpr h, ?_⟩, fun o ho => ?_⟩
    · rw [List.flatMap_singleton]
      exact toldFrom_account h
    · refine ⟨List.forall_mem_singleton.mpr ⟨o, ho⟩, fun times htimes => ?_⟩
      cases htimes
      rfl
  | cons f outer ih =>
    obtain ⟨inner, hbody, rfl⟩ := h
    obtain ⟨first, hfirst, hover⟩ := stays_of_runs hbody
    -- what is told of every stay right behind `f` is made of stays further inside
    choose! parts hparts hpartsOver using fun stay hstay => ih (hfirst.accounts stay hstay)
    refine ⟨first.flatMap parts, ⟨fun stay hstay => ?_, ?_⟩, fun o ho => ⟨fun stay hstay => ?_, ?_⟩⟩
    · obtain ⟨outside, houtside, hstay⟩ := List.mem_flatMap.mp hstay
      have haccount := (hparts outside houtside).accounts stay hstay
      rw [Nat.add_right_comm] at haccount
      exact haccount
    · have hinside : i + 1 ≤ i + (f :: outer).length := by
        rw [List.length_cons]
        omega
      rw [toldFrom_visit hinside, ← toldFrom_toldFrom hinside, hfirst.told, toldFrom, List.filter_flatMap,
        List.flatMap_assoc]
      refine List.flatMap_congr fun stay hstay => ?_
      have htold := (hparts stay hstay).told
      rw [Nat.add_right_comm] at htold
      exact htold
    · obtain ⟨outside, houtside, hstay⟩ := List.mem_flatMap.mp hstay
      obtain ⟨o', ho'⟩ := (hover o ho).1 outside houtside
      exact (hpartsOver outside houtside o' ho').1 stay hstay
    · intro times htimes
      cases htimes with
      | @cons _ n _ times hf houter =>
        have hlength : ∀ stay ∈ first, (parts stay).length = times.prod := by
          intro stay hstay
          obtain ⟨o', ho'⟩ := (hover o ho).1 stay hstay
          exact (hpartsOver stay hstay o' ho').2 times houter
        rw [List.length_flatMap, List.map_congr_left hlength, List.map_const', List.sum_const_nat,
          (hover o ho).2 n (hf req), List.prod_cons]

/-! ## How often a stage is entered -/

/-- The requests that a stage is entered with, in order. -/
def entered (i : Nat) (es : List (Entry σ Req Rep)) : List Req := es.filterMap (Entry.entered? i)

/-- What a stage does once it is entered does not enter it. -/
theorem entered_visit {inner : List (Entry σ Req Rep)}
    (h : ∀ e ∈ inner, (∃ a, e = .act i a) ∨ i + 1 ≤ e.stage) (req : Req) (r : Option (Outcome Rep)) :
    entered i (.enter i req :: (inner ++ Entry.leaving i r)) = [req] := by
  have hinner : entered i inner = [] := by
    refine List.filterMap_eq_nil_iff.mpr fun e he => ?_
    rcases h e he with ⟨a, rfl⟩ | hle
    · rfl
    · cases e with
      | enter k q =>
        have hle : i + 1 ≤ k := hle
        exact if_neg (by omega)
      | act k a => rfl
      | leave k o => rfl
  have hleaving : entered i (Entry.leaving i r : List (Entry σ Req Rep)) = [] := by
    cases r with
    | none => rfl
    | some o => rfl
  have henter : (Entry.enter i req : Entry σ Req Rep).entered? i = some req := if_pos rfl
  rw [entered, List.filterMap_cons_some henter, List.filterMap_append]
  exact congrArg (req :: ·) (List.append_eq_nil_iff.mpr ⟨hinner, hleaving⟩)

/-- The first stage of an account is entered once. -/
theorem entered_account (h : Account terminal c i req es r) : entered i es = [req] := by
  cases c with
  | nil =>
    obtain ⟨inner, hbody, rfl⟩ := h
    refine entered_visit (fun e he => ?_) req r
    rcases hbody.entryOf he with hact | ⟨q, -⟩
    · exact Or.inl hact
    · exact q.elim
  | cons f c =>
    obtain ⟨inner, hbody, rfl⟩ := h
    refine entered_visit (fun e he => ?_) req r
    rcases hbody.entryOf he with hact | ⟨q, es', a?, -, haccount, he', -⟩
    · exact Or.inl hact
    · exact Or.inr (le_stage haccount he')

/-- **A stage is entered once for every stay there**, with the request that comes in. -/
theorem entered_of_stays {stays : List (Stay σ Req Rep)} (h : Stays terminal c i stays es) :
    entered i es = stays.map Stay.req := by
  have hfrom : entered i (toldFrom i es) = entered i es := by
    rw [entered, toldFrom, List.filterMap_filter]
    refine List.filterMap_congr fun e _ => ?_
    cases e with
    | enter k q =>
      by_cases hk : k = i
      · simp [hk, Entry.stage]
      · simp [Entry.entered?, hk]
    | act k a => exact ite_self _
    | leave k o => exact ite_self _
  rw [← hfrom, h.told, entered, List.filterMap_flatMap, List.map_eq_flatMap]
  exact List.flatMap_congr fun stay hstay => entered_account (h.accounts stay hstay)

end

end Chain
end Switchyard
