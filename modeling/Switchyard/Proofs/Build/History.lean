import Switchyard.Build

/-!
  Histories of calls on something under construction.

  What a single call can do is said once (`Performed`): it is refused and leaves everything as it was,
  it ends the construction, or it adds what it contributes.  A construction is a way of making calls
  that comes with the proof that they do nothing else (`Construction`).

  Calls come one after the other (`after`), and some of them are accepted (`accepted`).

  * `history_induction` — what accepted calls preserve holds of every history;
  * `open_induction`    — as long as the construction goes on, adding is all that has to preserve it.
-/

namespace Switchyard

namespace Change

variable {β α γ : Type}

/-- A call whose value is changed. -/
def map (g : α → γ) (c : Change β α) : Change β γ := ⟨c.after, c.result.map g, c.events⟩

/-- The call was accepted. -/
def Accepted (c : Change β α) : Prop := ∃ a, c.result = .ok a

end Change

/-- All that a call can do to something under construction that would grow to `grown`, if the call is
    admissible. -/
inductive Performed {β : Type} (Open : β → Prop) (admissible : Prop) (b grown : β) :
    Change β Unit → Prop where
  | refused (e : BuildError) (events : List Event) :
      Performed Open admissible b grown ⟨b, .error e, events⟩
  | closed (b' : β) (events : List Event) (h : ¬ Open b') :
      Performed Open admissible b grown ⟨b', .ok (), events⟩
  | grew (b' : β) (events : List Event) (hopen : Open b) (hadmissible : admissible)
      (hgrown : b' = grown) : Performed Open admissible b grown ⟨b', .ok (), events⟩

/-- Calls on something under construction. -/
structure Construction (β κ : Type) where
  /-- Make a call. -/
  perform : β → κ → Change β Unit
  /-- The construction goes on. -/
  Open : β → Prop
  /-- What accepting a call takes. -/
  Admissible : β → κ → Prop
  /-- What is under construction, with what a call contributes. -/
  grow : β → κ → β
  performed (b : β) (k : κ) : Performed Open (Admissible b k) b (grow b k) (perform b k)

namespace Construction

variable {β κ : Type} (c : Construction β κ)

/-- What is under construction after calls. -/
def after : β → List κ → β
  | b, [] => b
  | b, k :: ks => after (c.perform b k).after ks

/-- The calls that are accepted, in order. -/
def accepted : β → List κ → List κ
  | _, [] => []
  | b, k :: ks =>
    match (c.perform b k).result with
    | .ok () => k :: accepted (c.perform b k).after ks
    | .error _ => accepted (c.perform b k).after ks

variable {c}

theorem accepted_sublist {b : β} {ks : List κ} : (c.accepted b ks).Sublist ks := by
  induction ks generalizing b with
  | nil => exact .slnil
  | cons k ks ih =>
    rw [accepted]
    cases (c.perform b k).result with
    | ok u => exact .cons_cons k ih
    | error e => exact .cons k ih

/-- A call that is refused leaves everything as it was. -/
theorem after_of_refused {b : β} {k : κ} {e : BuildError} (h : (c.perform b k).result = .error e) :
    (c.perform b k).after = b := by
  have hperformed := c.performed b k
  cases hc : c.perform b k with
  | mk after result events =>
  rw [hc] at hperformed h
  cases hperformed with
  | refused e events => rfl
  | closed b' events hclosed => nomatch h
  | grew b' events hopen hadmissible hgrown => nomatch h

/-- **What the accepted calls preserve holds of every history**, by induction on the calls. -/
theorem history_induction {R : List κ → β → Prop}
    (hstep : ∀ {done b k}, R done b → (c.perform b k).Accepted →
      R (done ++ [k]) (c.perform b k).after)
    {done : List κ} {b : β} (hstart : R done b) (ks : List κ) :
    R (done ++ c.accepted b ks) (c.after b ks) := by
  induction ks generalizing done b with
  | nil =>
    rw [accepted, List.append_nil]
    exact hstart
  | cons k ks ih =>
    rw [accepted, after]
    cases hresult : (c.perform b k).result with
    | ok u =>
      have hrest := ih (hstep hstart ⟨u, hresult⟩)
      rw [List.append_assoc] at hrest
      exact hrest
    | error e =>
      refine ih ?_
      rw [after_of_refused hresult]
      exact hstart

/-- **What growing preserves holds as long as the construction goes on.** -/
theorem open_induction {R : List κ → β → Prop} {b : β} (hstart : R [] b)
    (hgrow : ∀ {done b k}, R done b → c.Admissible b k → R (done ++ [k]) (c.grow b k))
    {ks : List κ} (hopen : c.Open (c.after b ks)) : R (c.accepted b ks) (c.after b ks) := by
  -- an accepted call may also end the construction, so what is carried along is that `R` holds of
  -- whatever is still open
  have hstep : ∀ {done b k}, (c.Open b → R done b) → (c.perform b k).Accepted →
      c.Open (c.perform b k).after → R (done ++ [k]) (c.perform b k).after := by
    intro done b k hR haccepted hopen
    obtain ⟨u, hok⟩ := haccepted
    have hperformed := c.performed b k
    cases hc : c.perform b k with
    | mk after result events =>
    rw [hc] at hperformed hok hopen
    cases hperformed with
    | refused e events => nomatch hok
    | closed b' events hclosed => exact absurd hopen hclosed
    | grew b' events hb hadmissible hgrown =>
      show R (done ++ [k]) after
      rw [hgrown]
      exact hgrow (hR hb) hadmissible
  have hall : c.Open (c.after b ks) → R ([] ++ c.accepted b ks) (c.after b ks) :=
    history_induction (R := fun done b => c.Open b → R done b) hstep (fun _ => hstart) ks
  exact hall hopen

end Construction
end Switchyard
