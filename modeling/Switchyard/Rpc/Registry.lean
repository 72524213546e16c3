import Switchyard.Build
import Switchyard.Rpc.Call

/-!
  The methods of a service under construction, and the table that is made of them.

  Methods keep the order in which they are declared, and no two share a name.  A batch is registered
  as a whole or not at all.
-/

namespace Switchyard.Rpc

/-- A method of a service. -/
structure Method (σ : Type) where
  name : String
  /-- The filters that wrap this method only. -/
  filters : Chain σ := []
  callback : Handler σ

variable {σ : Type}

namespace Method

/-- A method as a developer sees it. -/
def debug (m : Method σ) : String :=
  Text.recordText "ThriftMethod"
    [("name", Text.quote m.name), ("filters", Chain.debug m.filters)]

/-- The first method whose name was seen before. -/
def firstRepeated? : List String → List (Method σ) → Option (Method σ)
  | _, [] => none
  | seen, m :: rest => if m.name ∈ seen then some m else firstRepeated? (m.name :: seen) rest

/-- The callback behind the given filters and the method's own. -/
def behind (outer : Chain σ) (m : Method σ) : Handler σ :=
  Chain.compose (outer ++ m.filters) m.callback

end Method

/-- Registered methods in order. -/
structure Registry (σ : Type) where
  methods : List (Method σ) := []

namespace Registry

/-- The names of the registered methods. -/
def names (g : Registry σ) : List String := g.methods.map Method.name

/-- The event of registering a method. -/
def registeredEvent (m : Method σ) : Event :=
  ⟨.debug, "Thrift method registered", [("method", .text m.name)]⟩

/-- Register one method. -/
def register (g : Registry σ) (m : Method σ) : Change (Registry σ) Unit :=
  if g.methods.any fun n => n.name = m.name then .refuse g (.duplicateMethod m.name)
  else .accept ⟨g.methods ++ [m]⟩ () [registeredEvent m]

/-- Register a batch of methods. -/
def registerAll (g : Registry σ) (methods : List (Method σ)) : Change (Registry σ) Unit :=
  match Method.firstRepeated? g.names methods with
  | some m => .refuse g (.duplicateMethod m.name)
  | none => .accept ⟨g.methods ++ methods⟩ () (methods.map registeredEvent)

end Registry

/-- A method that is ready to serve. -/
structure Compiled (σ : Type) where
  /-- The whole path. -/
  composed : Handler σ
  /-- The callback alone. -/
  callback : Handler σ

/-- The methods of a frozen router: their names in order, and what each name stands for. -/
structure Table (σ : Type) where
  names : List String
  /-- The entries, the last one first; of two with one name the last one counts. -/
  entries : List (String × Compiled σ)

namespace Table

/-- What a name stands for. -/
def lookup (t : Table σ) (name : String) : Option (Compiled σ) :=
  (t.entries.find? (·.1 = name)).map (·.2)

end Table

/-- The table of all registered methods, each behind the given filters. -/
def Registry.compile (g : Registry σ) (outer : Chain σ) : Table σ :=
  { names := g.names
    entries := g.methods.foldl (fun es m => (m.name, ⟨m.behind outer, m.callback⟩) :: es) [] }

/-- The path of a selected method: all of it, or the callback alone. -/
def Compiled.selected (c : Compiled σ) (bypass : Bool) : Handler σ :=
  if bypass then c.callback else c.composed

end Switchyard.Rpc
