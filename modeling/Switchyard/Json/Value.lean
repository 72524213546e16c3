/-!
  JSON values.  Whole numbers and doubles are kept apart, and an object is the list of its members
  in written order.
-/

namespace Switchyard

/-- A JSON value. -/
inductive Json where
  | null
  | bool (b : Bool)
  | int (i : Int)
  | double (x : Float)
  | string (s : String)
  | array (items : List Json)
  | object (members : List (String × Json))

namespace Json

/-- A whole number that is not negative. -/
def nat (n : Nat) : Json := .int n

/-- A string or nothing. -/
def ofString? : Option String → Json
  | none => .null
  | some s => .string s

/-- The member of an object under a name, the first if there are several; nothing of any other
    value. -/
def get? (j : Json) (name : String) : Option Json :=
  match j with
  | .object members => (members.find? (·.1 = name)).map (·.2)
  | _ => none

/-- Put a member into a list sorted by name, replacing the one that is there. -/
def insertSorted (name : String) (value : Json) : List (String × Json) → List (String × Json)
  | [] => [(name, value)]
  | (k, v) :: rest =>
    if name = k then (name, value) :: rest
    else if name < k then (name, value) :: (k, v) :: rest
    else (k, v) :: insertSorted name value rest

/-- An object with its members sorted by name; of two with one name the later stays. -/
def sortedObject (members : List (String × Json)) : Json :=
  .object (members.foldl (fun acc m => insertSorted m.1 m.2 acc) [])

end Json
end Switchyard
