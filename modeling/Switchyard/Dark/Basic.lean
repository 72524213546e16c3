import Switchyard.Filter.Basic

/-!
  Dark traffic: copies of requests that go to a second destination.

  A sampled request is copied, and the copy is sent in the background with a bound on its time.  What
  comes of it moves counters and nothing else: the outcome of the request itself never waits for the
  copy and never depends on it.
-/

namespace Switchyard.Dark

/-- Why a dark call, or setting one up, went wrong. -/
inductive Error where
  | invalidDestination (destination reason : String)
  /-- The copy could not be turned into a request. -/
  | request (reason : String)
  /-- The destination could not be reached. -/
  | unreachable (reason : String)
  /-- The destination answered with a server error. -/
  | status (status : Http.Status)
  | timeout
deriving DecidableEq, Repr

/-- The wording of an error. -/
def Error.message : Error → String
  | .invalidDestination d reason =>
    "invalid dark traffic destination " ++ Text.quote d ++ ": " ++ reason
  | .request reason => "failed to build mirrored request: " ++ reason
  | .unreachable reason => "dark destination request failed: " ++ reason
  | .status s => "dark destination answered " ++ s.text
  | .timeout => "dark call timed out"

/-- An error as a developer sees it. -/
def Error.debug : Error → String
  | .invalidDestination d reason =>
    Text.recordText "InvalidDestination"
      [("destination", Text.quote d), ("reason", Text.quote reason)]
  | .request reason => "Request(" ++ reason ++ ")"
  | .unreachable reason => "Upstream(" ++ reason ++ ")"
  | .status s => "Status(" ++ Number.natText s ++ ")"
  | .timeout => "Timeout"

/-- Sends copies to a destination. -/
structure Client (Req : Type) where
  send : Req → Background (Except Error Unit)

/-- Decides which requests are copied. -/
inductive Sampler (σ Req : Type) where
  /-- By the request alone. -/
  | when (accept : Req → Bool)
  /-- By a draw from the state. -/
  | drawn (accept : σ → Bool × σ)

namespace Sampler

variable {σ Req : Type}

/-- Copies every request. -/
def always : Sampler σ Req := when fun _ => true

/-- Copies nothing. -/
def never : Sampler σ Req := when fun _ => false

/-- The rate within its bounds; a number that is none counts as zero. -/
def clampRate (rate : Float) : Float :=
  if rate.isNaN then 0.0 else if rate < 0.0 then 0.0 else if 1.0 < rate then 1.0 else rate

/-- Copies a fraction of the requests: those whose draw, at least zero and below one, is below the
    rate.  At the ends no draw is needed. -/
def ratio (draw : σ → Float × σ) (rate : Float) : Sampler σ Req :=
  let rate := clampRate rate
  if 0.0 < rate then
    if rate < 1.0 then drawn fun s => let (x, s) := draw s; (x < rate, s)
    else always
  else never

/-- Is this request copied? -/
def accepts {Q A : Type} : Sampler σ Req → Req → Flow σ Q A Bool
  | when accept, req => pure (accept req)
  | drawn accept, _ => Prog.update accept

end Sampler

/-- A time in milliseconds as a developer sees it: in seconds from one second on. -/
def durationText (ms : Nat) : String :=
  if ms = 0 then "0ns"
  else if ms < 1000 then Number.natText ms ++ "ms"
  else
    let places := (Nat.toDigits 10 (1000 + ms % 1000)).drop 1
    let kept := (places.reverse.dropWhile (· = '0')).reverse
    Number.natText (ms / 1000) ++ (if kept.isEmpty then "" else "." ++ String.ofList kept) ++ "s"

/-- What a dark traffic filter is made of. -/
structure Settings (σ Req : Type) where
  /-- The filter among all that were built. -/
  id : DarkId
  client : Client Req
  sampler : Sampler σ Req := .always
  /-- Send the copy once the outcome is there, or before the rest of the path is run. -/
  afterService : Bool := true
  timeoutMs : Nat := 1000

namespace Settings

variable {σ Req Rep Q A : Type}

/-- How a dark call is counted, and the event that goes with it. -/
def verdict (s : Settings σ Req) : Option (Except Error Unit) → DarkOutcome × List Event
  | some (.ok ()) => (.success, [])
  | none | some (.error .timeout) =>
    (.timeout, [⟨.debug, "Dark traffic call timed out",
      [("timeout", .text (durationText s.timeoutMs))]⟩])
  | some (.error e) =>
    (.failure, [⟨.debug, "Dark traffic call failed", [("error", .text e.message)]⟩])

/-- Count a dark call that ended. -/
def finish (s : Settings σ Req) (result : Option (Except Error Unit)) : Background Unit :=
  let (outcome, events) := s.verdict result
  Prog.observeAll
    (events.map .event ++ [.darkFinished s.id outcome, .metric (.darkFinished outcome)])

/-- A dark call from its beginning to its end. -/
def dark (s : Settings σ Req) (copy : Req) : Background Unit :=
  ((s.client.send copy).within s.timeoutMs).bind s.finish

/-- Issue a dark call. -/
def issue (s : Settings σ Req) (copy : Req) : Flow σ Q A Unit := do
  Prog.observe (.darkIssued s.id)
  Prog.observe (.metric .darkIssued)
  Prog.launch ⟨s.id, s.dark copy⟩ (pure ())

/-- The filter: sampled requests are copied as they are on reaching it. -/
def filter (s : Settings σ Req) (copy : Req → Req) : Filter σ Req Rep := fun req => do
  if ← s.sampler.accepts req then
    if s.afterService then
      let outcome ← Prog.call req
      s.issue (copy req)
      pure outcome
    else
      s.issue (copy req)
      Prog.call req
  else Prog.call req

end Settings
end Switchyard.Dark
