import Switchyard.Failure.Refusal

/-!
  Calls on something under construction.  A call comes to a value, what is under construction
  afterwards, and the events it leaves; a call that is refused leaves everything as it was.
-/

namespace Switchyard

/-- The two phases of a router's life. -/
inductive Phase where
  | building
  | frozen
deriving DecidableEq, Repr

/-- What a call comes to. -/
structure Change (β α : Type) where
  /-- What is under construction after the call. -/
  after : β
  result : Except BuildError α
  events : List Event := []

namespace Change

variable {β α : Type}

/-- The call is refused. -/
def refuse (before : β) (e : BuildError) : Change β α := ⟨before, .error e, []⟩

/-- The call is accepted. -/
def accept (after : β) (a : α) (events : List Event) : Change β α := ⟨after, .ok a, events⟩

/-- A call and, if it is accepted, another. -/
def andThen {γ : Type} (c : Change β α) (next : β → Change β γ) : Change β γ :=
  match c.result with
  | .error e => ⟨c.after, .error e, c.events⟩
  | .ok _ =>
    let d := next c.after
    ⟨d.after, d.result, c.events ++ d.events⟩

end Change
end Switchyard
