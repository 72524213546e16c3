import Switchyard.Proofs.Build.History

/-!
  Sessions: making call after call, being told what each comes to, and keeping the product that one of
  them gives.

  A production is a construction that one kind of call ends (`Production.finish`); that call gives the
  product.  A caller has what is under construction, and the product once it is there (`Session`).

  1. **One call.**  A call that is refused leaves the session as it was, and its answer is all that it leaves
     (`next_of_refused`).

  2. **Call after call.**  So every other call is answered as if it had not been made (`answers_of_refused`),
     and so it is with all refused calls at once (`session_accepted`, `answers_accepted`): a session is told by
     its accepted calls.

  3. **The end.**  After the call that ends the construction every call is refused (`session_of_closed`,
     `answers_of_closed`); until it is accepted, the construction goes on (`open_after_iff`).

  A production for which all this holds is steady (`Production.Steady`), and every production is (`steady`).
-/

namespace Switchyard

namespace Change

variable {β α γ δ : Type}

theorem map_map (c : Change β α) (f : α → γ) (g : γ → δ) : (c.map f).map g = c.map fun a => g (f a) := by
  obtain ⟨after, result, events⟩ := c
  cases result with
  | ok a => rfl
  | error e => rfl

theorem map_unit (c : Change β Unit) : (c.map fun _ => ()) = c := by
  obtain ⟨after, result, events⟩ := c
  cases result with
  | ok u => rfl
  | error e => rfl

/-- Changing the value of a call leaves a refusal. -/
theorem map_eq_error_iff {c : Change β α} {g : α → γ} {e : BuildError} :
    (c.map g).result = .error e ↔ c.result = .error e := by
  obtain ⟨after, result, events⟩ := c
  cases result with
  | ok a =>
    constructor
    · intro h
      cases h
    · intro h
      cases h
  | error e' =>
    constructor
    · intro h
      rw [Except.error.inj h]
    · intro h
      rw [Except.error.inj h]
      rfl

end Change

/-- What a caller is told: what the call gives or why it is refused, and the events it leaves. -/
structure Answer (ρ : Type) where
  result : Except BuildError (Option ρ)
  events : List Event

namespace Answer

variable {ρ : Type}

/-- The product that is given. -/
def product? (a : Answer ρ) : Option ρ :=
  match a.result with
  | .ok product? => product?
  | .error _ => none

/-- The call was accepted. -/
def isOk (a : Answer ρ) : Bool :=
  match a.result with
  | .ok _ => true
  | .error _ => false

/-- The answer to every call after the end. -/
def frozen : Answer ρ := ⟨.error .frozen, []⟩

end Answer

/-- What a caller has: something under construction, and the product once it is there. -/
structure Session (β ρ : Type) where
  builder : β
  product? : Option ρ := none

/-- A construction that gives a product when it ends. -/
structure Production (β κ ρ : Type) extends Construction β κ where
  /-- The call that ends the construction. -/
  finish : κ
  /-- What that call gives. -/
  give : β → Change β ρ
  /-- It is told from the other calls. -/
  isFinish (k : κ) : Decidable (k = finish)
  perform_finish (b : β) : perform b finish = (give b).map fun _ => ()
  keeps (b : β) {k : κ} (h : k ≠ finish) : Open (perform b k).after ↔ Open b
  ends {b : β} (h : (perform b finish).Accepted) : ¬ Open (perform b finish).after
  refuses {b : β} (h : ¬ Open b) (k : κ) : perform b k = .refuse b .frozen
  givesNot {b : β} (h : ¬ Open b) : give b = .refuse b .frozen

namespace Production

variable {β κ ρ : Type} (p : Production β κ ρ)

/-- Make a call, and take the product if it gives one. -/
def call (b : β) (k : κ) : Change β (Option ρ) :=
  match p.isFinish k with
  | .isTrue _ => (p.give b).map some
  | .isFalse _ => (p.perform b k).map fun _ => none

/-- The answer to a call. -/
def answer (b : β) (k : κ) : Answer ρ := ⟨(p.call b k).result, (p.call b k).events⟩

/-- The session after a call. -/
def next (s : Session β ρ) (k : κ) : Session β ρ :=
  ⟨(p.call s.builder k).after, (p.answer s.builder k).product?.or s.product?⟩

/-- The session after calls. -/
def session (s : Session β ρ) (ks : List κ) : Session β ρ := ks.foldl p.next s

/-- The answers to calls, in order. -/
def answers : Session β ρ → List κ → List (Answer ρ)
  | _, [] => []
  | s, k :: ks => p.answer s.builder k :: answers (p.next s k) ks

variable {p}

/-! ## One call -/

theorem call_finish (b : β) : p.call b p.finish = (p.give b).map some := by
  rw [call]
  cases p.isFinish p.finish with
  | isTrue h => rfl
  | isFalse h => exact absurd rfl h

theorem call_of_ne (b : β) {k : κ} (h : k ≠ p.finish) :
    p.call b k = (p.perform b k).map fun _ => none := by
  rw [call]
  cases p.isFinish k with
  | isTrue heq => exact absurd heq h
  | isFalse h => rfl

theorem perform_eq (b : β) (k : κ) : p.perform b k = (p.call b k).map fun _ => () := by
  by_cases hk : k = p.finish
  · subst hk
    rw [call_finish, Change.map_map, p.perform_finish]
  · rw [call_of_ne b hk, Change.map_map, Change.map_unit]

theorem call_of_closed {b : β} (h : ¬ p.Open b) (k : κ) : p.call b k = .refuse b .frozen := by
  by_cases hk : k = p.finish
  · subst hk
    rw [call_finish, p.givesNot h]
    rfl
  · rw [call_of_ne b hk, p.refuses h]
    rfl

/-- Only the call that ends the construction gives a product. -/
theorem eq_finish_of_gives {b : β} {k : κ} {product : ρ}
    (h : (p.call b k).result = .ok (some product)) : k = p.finish := by
  by_cases hk : k = p.finish
  · exact hk
  · rw [call_of_ne b hk, Change.map] at h
    cases hresult : (p.perform b k).result with
    | ok u =>
      rw [hresult] at h
      cases h
    | error e =>
      rw [hresult] at h
      cases h

theorem after_perform (b : β) (k : κ) : (p.perform b k).after = (p.call b k).after := by
  rw [perform_eq]
  rfl

theorem result_perform_eq_error_iff {b : β} {k : κ} {e : BuildError} :
    (p.perform b k).result = .error e ↔ (p.call b k).result = .error e := by
  rw [perform_eq]
  exact Change.map_eq_error_iff

/-- A call that is refused leaves what is under construction as it was. -/
theorem call_after_of_refused {b : β} {k : κ} {e : BuildError} (h : (p.call b k).result = .error e) :
    (p.call b k).after = b := by
  rw [← after_perform]
  exact Construction.after_of_refused (result_perform_eq_error_iff.mpr h)

/-- **A call that is refused leaves the session as it was.** -/
theorem next_of_refused {s : Session β ρ} {k : κ} {e : BuildError}
    (h : (p.call s.builder k).result = .error e) : p.next s k = s := by
  have hnone : (p.answer s.builder k).product? = none := by
    rw [Answer.product?, answer, h]
  rw [next, call_after_of_refused h, hnone]
  rfl

/-- After the end every call is refused. -/
theorem answer_of_closed {b : β} (h : ¬ p.Open b) (k : κ) : p.answer b k = .frozen := by
  rw [answer, call_of_closed h]
  rfl

theorem next_of_closed {s : Session β ρ} (h : ¬ p.Open s.builder) (k : κ) : p.next s k = s := by
  refine next_of_refused (e := .frozen) ?_
  rw [call_of_closed h]
  rfl

/-- A call that gives a product ends the construction. -/
theorem not_open_of_gives {b : β} {k : κ} {product : ρ}
    (h : (p.call b k).result = .ok (some product)) : ¬ p.Open (p.call b k).after := by
  obtain rfl := eq_finish_of_gives h
  rw [← after_perform]
  refine p.ends ⟨(), ?_⟩
  rw [perform_eq, Change.map, h]
  rfl

/-! ## Call after call -/

theorem session_append (s : Session β ρ) (ks ks' : List κ) :
    p.session s (ks ++ ks') = p.session (p.session s ks) ks' := List.foldl_append

/-- The session keeps what the calls make of what is under construction. -/
theorem builder_session (s : Session β ρ) (ks : List κ) :
    (p.session s ks).builder = p.after s.builder ks := by
  induction ks generalizing s with
  | nil => rfl
  | cons k ks ih =>
    show (p.session (p.next s k) ks).builder = p.after (p.perform s.builder k).after ks
    rw [ih, after_perform]
    rfl

/-- **A refused call may as well not have been made**: the session goes on as without it. -/
theorem session_of_refused {s : Session β ρ} {before : List κ} {k : κ} {e : BuildError}
    (h : (p.call (p.after s.builder before) k).result = .error e) (later : List κ) :
    p.session s (before ++ k :: later) = p.session s (before ++ later) := by
  rw [← builder_session] at h
  rw [session_append, session_append]
  show p.session (p.next (p.session s before) k) later = _
  rw [next_of_refused h]

/-- **Every other call is answered as if a refused call had not been made.** -/
theorem answers_of_refused {s : Session β ρ} {before : List κ} {k : κ} {e : BuildError}
    (h : (p.call (p.after s.builder before) k).result = .error e) (later : List κ) :
    p.answers s (before ++ k :: later)
      = (p.answers s (before ++ later)).insertIdx before.length
          (p.answer (p.after s.builder before) k) := by
  induction before generalizing s with
  | nil =>
    rw [List.length_nil, List.insertIdx_zero]
    exact congrArg (List.cons _) (congrArg (p.answers · later) (next_of_refused h))
  | cons k₀ before ih =>
    rw [Construction.after, after_perform] at h ⊢
    exact congrArg (List.cons _) (ih (s := p.next s k₀) h)

/-- All refused calls may as well not have been made. -/
theorem session_accepted (s : Session β ρ) (ks : List κ) :
    p.session s (p.accepted s.builder ks) = p.session s ks := by
  induction ks generalizing s with
  | nil => rfl
  | cons k ks ih =>
    rw [Construction.accepted]
    cases hresult : (p.perform s.builder k).result with
    | ok u =>
      rw [after_perform]
      exact ih (p.next s k)
    | error e =>
      have hnext := next_of_refused (result_perform_eq_error_iff.mp hresult)
      show p.session s (p.accepted (p.perform s.builder k).after ks) = p.session (p.next s k) ks
      rw [Construction.after_of_refused hresult, hnext]
      exact ih s

/-- The accepted calls are answered as if the refused ones had not been made. -/
theorem answers_accepted (s : Session β ρ) (ks : List κ) :
    p.answers s (p.accepted s.builder ks) = (p.answers s ks).filter Answer.isOk := by
  induction ks generalizing s with
  | nil => rfl
  | cons k ks ih =>
    rw [Construction.accepted, answers]
    cases hresult : (p.perform s.builder k).result with
    | ok u =>
      have hok : (p.answer s.builder k).isOk = true := by
        rw [Answer.isOk, answer]
        cases hcall : (p.call s.builder k).result with
        | ok given => rfl
        | error e =>
          have hrefused := result_perform_eq_error_iff.mpr hcall
          rw [hresult] at hrefused
          cases hrefused
      rw [List.filter_cons_of_pos hok, after_perform]
      exact congrArg (List.cons _) (ih (p.next s k))
    | error e =>
      have hcall := result_perform_eq_error_iff.mp hresult
      have hrefused : ¬ (p.answer s.builder k).isOk = true := by
        rw [Answer.isOk, answer, hcall]
        exact Bool.false_ne_true
      rw [List.filter_cons_of_neg hrefused, Construction.after_of_refused hresult,
        next_of_refused hcall]
      exact ih s

/-! ## After the end -/

/-- After the end nothing changes any more. -/
theorem session_of_closed {s : Session β ρ} (h : ¬ p.Open s.builder) (ks : List κ) :
    p.session s ks = s := by
  induction ks with
  | nil => rfl
  | cons k ks ih =>
    show p.session (p.next s k) ks = s
    rw [next_of_closed h]
    exact ih

/-- After the end every call is refused. -/
theorem answers_of_closed {s : Session β ρ} (h : ¬ p.Open s.builder) (ks : List κ) :
    p.answers s ks = List.replicate ks.length .frozen := by
  induction ks with
  | nil => rfl
  | cons k ks ih => rw [answers, answer_of_closed h, next_of_closed h, ih, List.length_cons,
      List.replicate_succ]

/-- **The construction goes on until the call that ends it is accepted.** -/
theorem open_after_iff {b : β} (hopen : p.Open b) (ks : List κ) :
    p.Open (p.after b ks) ↔ p.finish ∉ p.accepted b ks := by
  -- along the calls: each leaves the construction open until the one that ends it is accepted
  induction ks generalizing b with
  | nil => exact iff_of_true hopen List.not_mem_nil
  | cons k ks ih =>
    rw [Construction.after, Construction.accepted]
    cases hresult : (p.perform b k).result with
    | error e =>
      rw [Construction.after_of_refused hresult]
      exact ih hopen
    | ok u =>
      by_cases hk : k = p.finish
      · subst hk
        -- once it has ended, it does not go on again
        have hclosed := p.ends ⟨u, hresult⟩
        have hstays := session_of_closed (s := ⟨(p.perform b p.finish).after, none⟩) hclosed ks
        have hafter := builder_session (p := p) ⟨(p.perform b p.finish).after, none⟩ ks
        rw [hstays] at hafter
        rw [← hafter]
        exact iff_of_false hclosed fun h => h List.mem_cons_self
      · rw [ih ((p.keeps b hk).mpr hopen)]
        refine not_congr ⟨List.mem_cons_of_mem k, fun h => ?_⟩
        exact (List.mem_cons.mp h).resolve_left (Ne.symm hk)

end Production

/-! ## Steady productions -/

/-- Refused calls change nothing, and after the end nothing changes any more. -/
structure Production.Steady {β κ ρ : Type} (p : Production β κ ρ) (start : β) : Prop where
  /-- A refused call leaves what is under construction exactly as it was. -/
  unchanged (before : List κ) (k : κ) (e : BuildError) :
    (p.call (p.after start before) k).result = .error e →
      (p.call (p.after start before) k).after = p.after start before
  /-- Every other call is answered as if the refused call had not been made: with the same results, the
      same product among them, and with the same events. -/
  answered (before : List κ) (k : κ) (e : BuildError) (later : List κ) :
    (p.call (p.after start before) k).result = .error e →
      p.answers ⟨start, none⟩ (before ++ k :: later)
        = (p.answers ⟨start, none⟩ (before ++ later)).insertIdx before.length
            (p.answer (p.after start before) k)
  /-- The caller is left with what it would have without the refused call. -/
  left (before : List κ) (k : κ) (e : BuildError) (later : List κ) :
    (p.call (p.after start before) k).result = .error e →
      p.session ⟨start, none⟩ (before ++ k :: later) = p.session ⟨start, none⟩ (before ++ later)
  /-- So it is with all refused calls at once. -/
  together (calls : List κ) :
    p.session ⟨start, none⟩ (p.accepted start calls) = p.session ⟨start, none⟩ calls ∧
      p.answers ⟨start, none⟩ (p.accepted start calls)
        = (p.answers ⟨start, none⟩ calls).filter Answer.isOk
  /-- Once a call has given the product, every further call is refused as coming too late, and the caller
      keeps that product. -/
  ended (before : List κ) (k : κ) (product : ρ) (later : List κ) :
    (p.call (p.after start before) k).result = .ok (some product) →
      p.answers (p.session ⟨start, none⟩ (before ++ [k])) later
          = List.replicate later.length .frozen ∧
        p.session ⟨start, none⟩ (before ++ k :: later)
          = ⟨(p.call (p.after start before) k).after, some product⟩

namespace Production

variable {β κ ρ : Type}

/-- The session after a call that gives the product. -/
theorem next_of_gives {p : Production β κ ρ} {s : Session β ρ} {k : κ} {product : ρ}
    (h : (p.call s.builder k).result = .ok (some product)) :
    p.next s k = ⟨(p.call s.builder k).after, some product⟩ := by
  have hgiven : (p.answer s.builder k).product? = some product := by
    rw [Answer.product?, answer, h]
  rw [next, hgiven]
  rfl

/-- **Productions are steady.** -/
theorem steady (p : Production β κ ρ) (start : β) : p.Steady start where
  unchanged before k e h := call_after_of_refused h
  answered before k e later h := answers_of_refused (s := ⟨start, none⟩) h later
  left before k e later h := session_of_refused (s := ⟨start, none⟩) h later
  together calls := ⟨session_accepted ⟨start, none⟩ calls, answers_accepted ⟨start, none⟩ calls⟩
  ended before k product later h := by
    have hbuilder : (p.session ⟨start, none⟩ before).builder = p.after start before :=
      builder_session ⟨start, none⟩ before
    rw [← hbuilder] at h ⊢
    have hclosed := not_open_of_gives h
    have hnext := next_of_gives h
    rw [session_append, session_append]
    show p.answers (p.next (p.session ⟨start, none⟩ before) k) later = _ ∧
      p.session (p.next (p.session ⟨start, none⟩ before) k) later = _
    rw [hnext]
    exact ⟨answers_of_closed hclosed later, session_of_closed hclosed later⟩

end Production
end Switchyard
