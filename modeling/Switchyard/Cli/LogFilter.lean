import Switchyard.Observe.Event
import Switchyard.Number.Whole

/-!
  Which events are written to the log.

  A filter is a list of directives between commas.  A directive is a level for everything, a target,
  or a target with a level.  The directive with the longest target that fits decides; where none
  fits, nothing is written.  Without any directive only errors are.
-/

namespace Switchyard.Cli

/-- The target of the program's own events. -/
def ownTarget : String := "request_router"

/-- A directive; no level is off. -/
structure Directive where
  target : String
  level? : Option Level
deriving DecidableEq, Repr

namespace Directive

/-- The levels by number, from off on. -/
def levels : List (Option Level) :=
  [none, some .error, some .warn, some .info, some .debug, some .trace]

/-- The names of the levels, in the same order. -/
def levelNames : List String := ["off", "error", "warn", "info", "debug", "trace"]

/-- Lower case within the basic alphabet. -/
def lower (s : String) : String :=
  String.ofList (s.toList.map fun c =>
    if 'A' ≤ c && c ≤ 'Z' then Char.ofNat (c.toNat + 32) else c)

/-- Read a level: a name in either case, or a number. -/
def readLevel (s : String) : Option (Option Level) :=
  match Number.readWord s with
  | some n => levels[n]?
  | none =>
    match levelNames.idxOf? (lower s) with
    | some n => levels[n]?
    | none => none

/-- May a directive begin with the character? -/
def isStart (c : Char) : Bool :=
  c.isAlphanum || c = '-' || c = ':' || c = '_' || 0x80 ≤ c.toNat

/-- A text without blanks around it. -/
def trim (cs : List Char) : List Char :=
  let isBlank (c : Char) : Bool := c = ' ' || c = '\t' || c = '\n' || c = '\r'
  ((cs.dropWhile isBlank).reverse.dropWhile isBlank).reverse

/-- Read a directive. -/
def parse (s : String) : Option Directive :=
  let cs := trim s.toList
  if !((cs.head?.map isStart).getD false) then none
  else
    let name := String.ofList (cs.takeWhile (· ≠ '='))
    match cs.dropWhile (· ≠ '=') with
    | [] =>
      match readLevel name with
      | some level? => some ⟨"", level?⟩
      | none => some ⟨name, some .trace⟩
    | [_] => some ⟨name, some .trace⟩
    | _ :: level => (readLevel (String.ofList level)).map fun level? => ⟨name, level?⟩

/-- Does the directive speak about a target? -/
def fits (d : Directive) (target : String) : Bool := d.target.toList.isPrefixOf target.toList

/-- Does the directive let a level through? -/
def allows (d : Directive) (l : Level) : Bool :=
  match d.level? with
  | none => false
  | some least => least.rank ≤ l.rank

end Directive

/-- A filter with the directives that could not be read. -/
structure LogFilter where
  directives : List Directive
  ignored : List String
deriving DecidableEq, Repr

namespace LogFilter

/-- Read a filter. -/
def parse (s : String) : LogFilter :=
  let parts := (s.splitOn ",").filter fun p => !p.isEmpty
  let directives := parts.filterMap Directive.parse
  { directives := if directives.isEmpty then [⟨"", some .error⟩] else directives
    ignored := parts.filter fun p => (Directive.parse p).isNone }

/-- The directive that decides about the program's own events. -/
def decisive? (f : LogFilter) : Option Directive :=
  (f.directives.filter fun d => d.fits ownTarget).foldl
    (fun (best : Option Directive) d =>
      match best with
      | some b => if b.target.length ≤ d.target.length then some d else some b
      | none => some d)
    none

/-- Is an event written? -/
def allows (f : LogFilter) (e : Event) : Bool :=
  (f.decisive?.map fun d => d.allows e.level).getD false

/-- What is said about directives that could not be read. -/
def complaints (f : LogFilter) : String :=
  String.join (f.ignored.map fun d => "ignoring `" ++ d ++ "`: invalid filter directive\n")

end LogFilter
end Switchyard.Cli
