import Switchyard.Config.Schema
import Switchyard.Dark.HttpClient

/-!
  Dark traffic as a configuration asks for it.
-/

namespace Switchyard.Dark

variable {σ : Type}

/-- What setting up dark traffic comes to: the filter's settings, if copies are sent at all, and the
    events on the way. -/
structure Setup (σ : Type) where
  settings? : Option (Settings σ Http.Request)
  events : List Event

namespace Setup

/-- The event of dark traffic being off. -/
def disabledEvent : Event := ⟨.info, "Dark traffic disabled: no destination configured", []⟩

/-- The event of dark traffic being on. -/
def enabledEvent (destination : String) (c : Config.DarkTraffic) : Event :=
  ⟨.info, "Dark traffic enabled",
    [("destination", .text destination),
     ("sample_rate", .text (Number.developerText c.sampleRate)),
     ("forward_after_service", .flag c.forwardAfterService)]⟩

/-- Set up dark traffic. -/
def ofConfig (draw : σ → Float × σ) (n : Network) (id : DarkId) (c : Config.DarkTraffic) :
    Except Error (Setup σ) :=
  match c.destination? with
  | none => .ok ⟨none, [disabledEvent]⟩
  | some destination => do
    let client ← HttpClient.make destination c.clientId c.muxEnabled
    .ok ⟨some
      { id := id
        client := client.client n
        sampler := .ratio draw c.sampleRate
        afterService := c.forwardAfterService
        timeoutMs := c.timeoutMs },
      [client.madeEvent, enabledEvent destination c]⟩

/-- The chain of the filter, empty where there is none. -/
def chain (s : Setup σ) : Chain σ Http.Request Http.Response :=
  (s.settings?.map fun settings => settings.filter Http.Request.darkCopy).toList

end Setup
end Switchyard.Dark
