import Switchyard.Groups.Store
import Switchyard.Json.Reader
import Switchyard.Route.Router

/-!
  Groups over HTTP: they are created from and shown as JSON objects.
-/

namespace Switchyard.Groups

/-- Where a larger state keeps the groups. -/
structure Access (σ : Type) where
  get : σ → Groups
  put : Groups → σ → σ

variable {σ Q A : Type}

/-- Change the groups by a function that also gives a value. -/
def Access.update {α : Type} (a : Access σ) (f : Groups → α × Groups) : Flow σ Q A α :=
  Prog.update fun s =>
    let (value, groups) := f (a.get s)
    (value, a.put groups s)

/-- Look at the groups. -/
def Access.read (a : Access σ) : Flow σ Q A Groups := a.update fun gs => (gs, gs)

/-! ## Reading and showing -/

/-- What a group is created from. -/
def createShape : Json.Shape := .record "CreateGroup" [("name", .string, none)]

/-- The name for a new group in a body, or what is wrong with the body. -/
def readName (body : Bytes) : Except String String :=
  match createShape.read body with
  | .error f => .error (f.message body)
  | .ok v =>
    match v.get? "name" with
    | some (.string name) => .ok name
    | _ => .ok ""

/-- The number of a group in a path: a word in base ten. -/
def readId (raw : String) : Option GroupId := (Number.readWord raw).map UInt64.ofNat

/-- A group in an answer. -/
def groupJson (g : GroupId × String) : Json :=
  .object [("id", .nat g.1.toNat), ("name", .string g.2)]

/-- A request is refused with an exception. -/
def refuse (e : HttpException) : Outcome Http.Response := .error (.ofHttp e)

/-- The group asked for does not exist. -/
def missing (id : GroupId) : Outcome Http.Response :=
  refuse (.notFound ("group " ++ Number.natText id.toNat ++ " not found"))

/-! ## Callbacks -/

/-- Create a group. -/
def createGroup (a : Access σ) : Http.Handler σ := fun req => do
  match readName req.body with
  | .error e => pure (refuse (.badRequest ("invalid group: " ++ e)))
  | .ok name =>
    let id ← a.update fun gs => gs.create name
    pure (.ok (.json 201 (groupJson (id, name))))

/-- Show all groups in the order of their numbers. -/
def listGroups (a : Access σ) : Http.Handler σ := fun _ => do
  let gs ← a.read
  pure (.ok (.json 200 (.array (gs.live.map groupJson))))

/-- A callback for the group that the path names. -/
def onGroup (act : GroupId → Flow σ Empty Empty (Outcome Http.Response)) : Http.Handler σ :=
  fun req =>
    let raw := (req.param? "id").getD ""
    match readId raw with
    | none => pure (refuse (.badRequest ("invalid group id " ++ Text.quote raw)))
    | some id => act id

/-- Show one group. -/
def showGroup (a : Access σ) : Http.Handler σ := onGroup fun id => do
  let gs ← a.read
  match gs.name? id with
  | some name => pure (.ok (.json 200 (groupJson (id, name))))
  | none => pure (missing id)

/-- Remove one group. -/
def removeGroup (a : Access σ) : Http.Handler σ := onGroup fun id => do
  let existed ← a.update fun gs => (gs.contains id, gs.erase id)
  pure (if existed then .ok (.empty 204) else missing id)

/-- The routes of the groups. -/
def controller (a : Access σ) : Route.Controller σ where
  name := "groups"
  routes := do
    let create ← Route.make "POST" "/groups/" (createGroup a)
    let list ← Route.make "GET" "/groups/" (listGroups a)
    let one ← Route.make "GET" "/groups/:id" (showGroup a)
    let remove ← Route.make "DELETE" "/groups/:id" (removeGroup a)
    pure [create, list, one, remove]

end Switchyard.Groups
