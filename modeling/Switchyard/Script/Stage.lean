import Switchyard.Dark.Basic
import Switchyard.Route.Filters
import Switchyard.Script.Raise
import Switchyard.Script.Shown
import Switchyard.Script.World

/-!
  Filters and handlers whose behaviour is written down as data.  They exercise routers: what they do
  is left in the record as marks.

  The same scripts serve HTTP requests and service calls; a dialect says what differs.
-/

namespace Switchyard.Script

/-- What scripted stages need to know about requests and replies. -/
structure Dialect (Req Rep : Type) where
  /-- A reply in a mark. -/
  shownReply : Rep → String
  /-- What a request was selected by, in a mark. -/
  context : Req → String
  hasHeader : String → Req → Bool
  setHeader : String → Bytes → Req → Req
  setTarget : String → Req → Req
  /-- Add a named value to a reply. -/
  tag : String → Bytes → Rep → Rep
  /-- A copied request in a mark. -/
  shownCopy : Req → String
  darkCopy : Req → Req
  /-- The library's filters of this dialect. -/
  logging : Filter World Req Rep
  requestIds : Filter World Req Rep := Filter.pass
  stats : Filter World Req Rep := Filter.pass

/-- How a scripted dark destination answers. -/
inductive DarkScript.Ending where
  | ok
  | hang
  | error (label : String) (e : Dark.Error)

/-- A dark traffic filter with a scripted destination. -/
structure DarkScript where
  name : String
  /-- The sampler, if it is not the one that a filter has by itself. -/
  sampler? : Option (Dark.Sampler World Unit) := none
  /-- Sample the requests that have this header. -/
  sampleHeader? : Option String := none
  afterService? : Option Bool := none
  timeoutMs? : Option Nat := none
  delayMs : Nat := 0
  ending : DarkScript.Ending := .ok

/-- A scripted filter. -/
inductive Stage (Rep : Type) where
  /-- Marks before and after the rest of the path. -/
  | record (name : String)
  /-- Marks the outcome of the rest of the path. -/
  | observe (name : String)
  /-- Marks what the request was selected by. -/
  | context (name : String)
  /-- Replies without running the rest. -/
  | short (name : String) (reply : Rep)
  /-- Fails, before or after running the rest. -/
  | fail (name : String) (after : Bool) (raise : Raise)
  /-- Fails unless a header is there. -/
  | require (header : String) (raise : Raise)
  /-- Runs the rest again while it fails. -/
  | retry (name : String) (times : Nat)
  /-- Runs the rest twice and keeps one outcome. -/
  | twice (keepFirst : Bool)
  /-- Replies where the rest fails. -/
  | recover (name : String) (reply : Rep)
  | setHeader (header : String) (value : Bytes)
  | setTarget (target : String)
  | tag (header : String) (value : Bytes)
  | delay (ms : Nat)
  | logging
  | requestIds
  | stats
  | dark (d : DarkScript)

namespace DarkScript

variable {Req Rep : Type}

/-- The scripted destination. -/
def client (d : DarkScript) (dialect : Dialect Req Rep) : Dark.Client Req where
  send copy := do
    Prog.mark (d.name ++ ".send " ++ dialect.shownCopy copy)
    Prog.pause d.delayMs
    match d.ending with
    | .hang => .halt
    | .ok => do
      Prog.mark (d.name ++ ".ok")
      pure (.ok ())
    | .error label e => do
      Prog.mark (d.name ++ "." ++ label)
      pure (.error e)

/-- The sampler of the script, on requests. -/
def sampler (d : DarkScript) (dialect : Dialect Req Rep) : Dark.Sampler World Req :=
  match d.sampleHeader?, d.sampler? with
  | some h, _ => .when (dialect.hasHeader h)
  | none, some (.when accept) => .when fun _ => accept ()
  | none, some (.drawn accept) => .drawn accept
  | none, none => .always

/-- What the filter is made of. -/
def settings (d : DarkScript) (dialect : Dialect Req Rep) (id : DarkId) : Dark.Settings World Req :=
  { id := id, client := d.client dialect, sampler := d.sampler dialect
    afterService := d.afterService?.getD true, timeoutMs := d.timeoutMs?.getD 1000 }

end DarkScript

namespace Stage

variable {Req Rep : Type}

/-- Run the rest of the path up to `times` more times while it fails. -/
def retryFrom (name : String) (req : Req) :
    Nat → Nat → Outcome Rep → Flow World Req (Outcome Rep) (Outcome Rep)
  | _, _, .ok rep => pure (.ok rep)
  | 0, _, .error f => pure (.error f)
  | times + 1, i, .error _ => do
    Prog.mark (name ++ ".retry" ++ Number.natText i)
    let outcome ← Prog.call req
    retryFrom name req times (i + 1) outcome

/-- The filter that a script describes; a dark traffic filter among them gets the given id. -/
def filter (dialect : Dialect Req Rep) (id : DarkId) : Stage Rep → Filter World Req Rep
  | record name => fun req => do
    Prog.mark (name ++ ".pre")
    let outcome ← Prog.call req
    Prog.mark (name ++ ".post")
    pure outcome
  | observe name => fun req => do
    let outcome ← Prog.call req
    match outcome with
    | .ok rep => Prog.mark (name ++ "=" ++ dialect.shownReply rep)
    | .error f => Prog.mark (name ++ "=err(" ++ f.text ++ ")")
    pure outcome
  | context name => fun req => do
    Prog.mark (name ++ ":" ++ dialect.context req)
    Prog.call req
  | short name reply => fun _ => do
    Prog.mark (name ++ ".short")
    pure (.ok reply)
  | fail name after r => fun req => do
    if after then
      let _ ← Prog.call req
      pure ()
    Prog.mark (name ++ ".fail")
    r.raise
  | require header r => fun req =>
    if dialect.hasHeader header req then Prog.call req else r.raise
  | retry name times => fun req => do
    let outcome ← Prog.call req
    retryFrom name req times 1 outcome
  | twice keepFirst => fun req => do
    let first ← Prog.call req
    let second ← Prog.call req
    pure (if keepFirst then first else second)
  | recover name reply => fun req => do
    match ← Prog.call req with
    | .ok rep => pure (.ok rep)
    | .error f => do
      Prog.mark (name ++ ".recover(" ++ f.text ++ ")")
      pure (.ok reply)
  | setHeader header value => Filter.onRequest (dialect.setHeader header value)
  | setTarget target => Filter.onRequest (dialect.setTarget target)
  | tag header value => Filter.onReply (dialect.tag header value)
  | delay ms => fun req => do
    Prog.pause ms
    Prog.call req
  | logging => dialect.logging
  | requestIds => dialect.requestIds
  | stats => dialect.stats
  | dark d => (d.settings dialect id).filter dialect.darkCopy

/-- The name of a dark traffic filter. -/
def darkName? : Stage Rep → Option String
  | dark d => some d.name
  | _ => none

end Stage

/-- What a scripted handler does once it neither waits nor fails. -/
inductive Act (Req Rep : Type) where
  | reply (rep : Rep)
  | fail
  /-- A reply or the failure of the script, by the request; a reply of nothing is a failure. -/
  | answer (f : Req → Option Rep)

/-- A scripted handler. -/
structure HandlerScript (Req Rep : Type) where
  /-- The mark of every call. -/
  log : String := "T"
  delayMs : Nat := 0
  /-- How many calls fail before any succeeds. -/
  failFirst : Nat := 0
  raise : Raise
  act : Act Req Rep

/-- The handler that a script describes; it counts its calls under the given number. -/
def HandlerScript.handler {Req Rep : Type} (s : HandlerScript Req Rep) (number : Nat) :
    Handler World Req Rep := fun req => do
  Prog.mark s.log
  if 0 < s.delayMs then
    Prog.pause s.delayMs
    Prog.mark (s.log ++ ".done")
  let before ← Prog.update (World.countCall number)
  if before < s.failFirst then s.raise.raise
  else match s.act with
    | .reply rep => pure (.ok rep)
    | .fail => s.raise.raise
    | .answer f =>
      match f req with
      | some rep => pure (.ok rep)
      | none => s.raise.raise

end Switchyard.Script
