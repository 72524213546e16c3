/-!
  What a match leaves with a request: the values bound by the template, and which route it was.
-/

namespace Switchyard.Route

/-- The name under which a template binds the rest of a path. -/
def wildcardName : String := "*"

/-- Bound values with their names, in template order. -/
structure Params where
  entries : List (String × String) := []
deriving DecidableEq, Repr

namespace Params

/-- The value bound to a name. -/
def get? (p : Params) (name : String) : Option String :=
  (p.entries.find? (·.1 = name)).map (·.2)

/-- The rest of the path, if the template binds it. -/
def wildcard? (p : Params) : Option String := p.get? wildcardName

/-- One more binding, after the others. -/
def push (p : Params) (name value : String) : Params := ⟨p.entries ++ [(name, value)]⟩

end Params

/-- The route that a request was matched to. -/
structure Matched where
  name : String
  template : String
deriving DecidableEq, Repr

end Switchyard.Route
