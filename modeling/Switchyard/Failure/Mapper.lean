import Switchyard.Failure.Refusal

/-!
  Turning failures into replies.

  Mappers are registered by kind while a router is built; a later one for the same kind takes the
  place of the earlier.  A resolver answers a failure with the mapper of the nearest kind in its
  lineage that has one, and with the default mapper otherwise.
-/

namespace Switchyard

/-- How failures are answered: the reply, and the events that go with it. -/
structure Mapper (Rep : Type) where
  reply : Failure → Rep
  events : Failure → List Event := fun _ => []

/-- The mappers registered so far. -/
structure Mappers (Rep : Type) where
  entries : List (Kind × Mapper Rep) := []
  default? : Option (Mapper Rep) := none

/-- A table of mappers that has an answer for every failure. -/
structure Resolver (Rep : Type) where
  entries : List (Kind × Mapper Rep)
  default : Mapper Rep

/-- The mapper registered for exactly this kind. -/
def Mapper.at? {Rep : Type} (entries : List (Kind × Mapper Rep)) (k : Kind) : Option (Mapper Rep) :=
  (entries.find? (·.1 = k)).map (·.2)

namespace Mappers

variable {Rep : Type}

/-- Register a mapper for a kind. -/
def register (ms : Mappers Rep) (k : Kind) (m : Mapper Rep) : Mappers Rep :=
  { ms with entries :=
      if ms.entries.any (·.1 = k) then ms.entries.map fun e => if e.1 = k then (k, m) else e
      else ms.entries ++ [(k, m)] }

/-- The events of registering a mapper for a kind. -/
def registerEvents (ms : Mappers Rep) (k : Kind) : List Event :=
  if ms.entries.any (·.1 = k) then
    [⟨.debug, "Replacing exception mapper", [("exception", .text k.name)]⟩]
  else []

/-- Register the mapper for all other failures. -/
def registerDefault (ms : Mappers Rep) (m : Mapper Rep) : Mappers Rep := { ms with default? := some m }

/-- The resolver over the mappers registered so far. -/
def build (ms : Mappers Rep) : Except BuildError (Resolver Rep) :=
  match ms.default? with
  | some m => .ok ⟨ms.entries, m⟩
  | none => .error .missingDefaultMapper

end Mappers

namespace Resolver

variable {Rep : Type}

/-- The mapper for a failure: that of the nearest kind in its lineage that has one. -/
def mapperFor (r : Resolver Rep) (f : Failure) : Mapper Rep :=
  (f.lineage.findSome? (Mapper.at? r.entries)).getD r.default

/-- The reply to a failure. -/
def reply (r : Resolver Rep) (f : Failure) : Rep := (r.mapperFor f).reply f

/-- The events of answering a failure. -/
def events (r : Resolver Rep) (f : Failure) : List Event := (r.mapperFor f).events f

end Resolver
end Switchyard
