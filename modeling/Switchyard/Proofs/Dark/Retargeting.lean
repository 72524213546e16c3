import Switchyard.Dark.HttpClient
import Switchyard.Proofs.Http.Headers
import Switchyard.Proofs.Http.Targets

/-!
  What the client of dark traffic makes of a request.

  Whatever form its target was written in, a request can be sent to the destination: the target is taken
  apart, scheme and authority are replaced, and the path and the query stay.  A bare authority has no path and
  gets a slash.  Of the header fields, those that name the host go, and those that name the client are replaced
  if the client has a name of its own.

  * `Retargeted`            — all that is said about a request and what is made of it;
  * `copies_are_retargeted` — the main statement: rewriting never fails, and what comes of it.
-/

namespace Switchyard.Dark.HttpClient

variable (c : HttpClient) (req : Http.Request)

/-- A request as it was and as it goes to the destination of a client. -/
structure Retargeted (out : Http.Request) : Prop where
  scheme : out.target.scheme? = some "http"
  authority : out.target.authority? = some c.destination.authority
  /-- The path and the query are those of the request, -/
  path : req.target.HasPath → out.target.path = req.target.path ∧ out.target.query? = req.target.query?
  /-- or a slash alone if it has none. -/
  slash : ¬ req.target.HasPath → out.target.path = "/" ∧ out.target.query? = none
  method : out.method = req.method
  body : out.body = req.body
  /-- No host is named. -/
  host : out.headers.getAll hostHeader = []
  /-- A client with a name names itself and nobody else; -/
  named : ∀ id, c.clientId? = some id → out.headers.getAll clientIdHeader = [id]
  /-- one without a name leaves the names that came. -/
  nameless : c.clientId? = none → out.headers.getAll clientIdHeader = req.headers.getAll clientIdHeader
  others : ∀ name, name ≠ hostHeader → name ≠ clientIdHeader →
    out.headers.getAll name = req.headers.getAll name
  version : out.version = if c.muxEnabled then .http2 else .http11
  /-- What its match left with the request stays with it. -/
  matched : out.params? = req.params? ∧ out.route? = req.route?

/-! ## Header fields -/

theorem clientIdHeader_ne_hostHeader : clientIdHeader ≠ hostHeader := by decide

/-- The values under a name of a copy of the header fields. -/
theorem getAll_retargetHeaders (h : Http.Headers) (name : String) :
    (name = hostHeader → (c.retargetHeaders h).getAll name = []) ∧
    (name ≠ hostHeader → name ≠ clientIdHeader → (c.retargetHeaders h).getAll name = h.getAll name) := by
  rw [retargetHeaders]
  cases c.clientId? with
  | none =>
    refine ⟨?_, fun hhost _ => Http.Headers.getAll_remove_of_ne h hostHeader hhost⟩
    rintro rfl
    exact Http.Headers.getAll_remove h hostHeader
  | some id =>
    refine ⟨?_, fun hhost hclient => ?_⟩
    · rintro rfl
      show ((h.remove hostHeader).insert clientIdHeader id).getAll hostHeader = []
      rw [Http.Headers.getAll_insert_of_ne _ _ _ clientIdHeader_ne_hostHeader.symm]
      exact Http.Headers.getAll_remove h hostHeader
    · show ((h.remove hostHeader).insert clientIdHeader id).getAll name = h.getAll name
      rw [Http.Headers.getAll_insert_of_ne _ _ _ hclient]
      exact Http.Headers.getAll_remove_of_ne h hostHeader hhost

/-- The names of clients in a copy of the header fields: that of the client, or those that came. -/
theorem getAll_clientIdHeader (h : Http.Headers) :
    (c.retargetHeaders h).getAll clientIdHeader = match c.clientId? with
      | some id => [id]
      | none => h.getAll clientIdHeader := by
  rw [retargetHeaders]
  cases c.clientId? with
  | none => exact Http.Headers.getAll_remove_of_ne h hostHeader clientIdHeader_ne_hostHeader
  | some id => exact Http.Headers.getAll_insert (h.remove hostHeader) clientIdHeader id

/-! ## Requests -/

/-- The path and the query of a copy. -/
def copiedPath (t : Http.Target) : String × Option String := t.parts.path?.getD ("/", none)

theorem copiedPath_eq (t : Http.Target) :
    (t.HasPath → copiedPath t = (t.path, t.query?)) ∧ (¬ t.HasPath → copiedPath t = ("/", none)) := by
  obtain ⟨hsome, hnone⟩ := t.parts_path?
  constructor
  · intro hpath
    rw [copiedPath, hsome hpath]
    rfl
  · intro hpath
    rw [copiedPath, hnone hpath]
    rfl

/-- A request as it goes to the destination. -/
def retargeted : Http.Request :=
  { req with
    target :=
      { scheme? := some "http"
        authority? := some c.destination.authority
        path := (copiedPath req.target).1
        query? := (copiedPath req.target).2 }
    headers := c.retargetHeaders req.headers
    version := if c.muxEnabled then .http2 else .http11 }

/-- **Every request can be sent to the destination**: behind a scheme there are an authority and a path. -/
theorem retarget_eq : c.retarget req = .ok (c.retargeted req) := rfl

theorem retargeted_retargeted : Retargeted c req (c.retargeted req) where
  scheme := rfl
  authority := rfl
  path hpath := Prod.mk.inj ((copiedPath_eq req.target).1 hpath)
  slash hpath := Prod.mk.inj ((copiedPath_eq req.target).2 hpath)
  method := rfl
  body := rfl
  host := (getAll_retargetHeaders c req.headers hostHeader).1 rfl
  named id hid := by
    show (c.retargetHeaders req.headers).getAll clientIdHeader = [id]
    rw [getAll_clientIdHeader, hid]
  nameless hnone := by
    show (c.retargetHeaders req.headers).getAll clientIdHeader = req.headers.getAll clientIdHeader
    rw [getAll_clientIdHeader, hnone]
  others name hhost hclient := (getAll_retargetHeaders c req.headers name).2 hhost hclient
  version := rfl
  matched := ⟨rfl, rfl⟩

/-! ## Clients -/

variable {c}

/-- The name of a client is the text that it was given, if this is not empty. -/
theorem eq_of_readClientId {s : String} {id? : Option Bytes} (h : readClientId s = .ok id?) :
    id? = if s = "" then none else some (Bytes.ofString s) := by
  rw [readClientId] at h
  by_cases hempty : s = ""
  · rw [if_pos (String.isEmpty_iff.mpr hempty)] at h
    rw [if_pos hempty]
    exact (Except.ok.inj h).symm
  · rw [if_neg fun hs => hempty (String.isEmpty_iff.mp hs)] at h
    rw [if_neg hempty]
    by_cases hvalue : Http.isHeaderValue (Bytes.ofString s) = true
    · rw [if_pos hvalue] at h
      exact (Except.ok.inj h).symm
    · rw [if_neg hvalue] at h
      cases h

/-- A client is what it was made of. -/
theorem eq_of_make {destination clientId : String} {muxEnabled : Bool}
    (h : make destination clientId muxEnabled = .ok c) :
    Destination.parse destination = .ok c.destination ∧
      c.clientId? = (if clientId = "" then none else some (Bytes.ofString clientId)) ∧
      c.muxEnabled = muxEnabled := by
  obtain ⟨d, hd, h⟩ := Except.ok_of_bind h
  cases hid : readClientId clientId with
  | error reason =>
    rw [hid] at h
    cases h
  | ok id? =>
    rw [hid] at h
    obtain rfl := Except.ok.inj h
    exact ⟨hd, eq_of_readClientId hid, rfl⟩

/-- **A copy goes to the destination with all that does not say where it was meant for.**

    * Every request can be rewritten, and what is made of it is what is sent: with the plain scheme and the
      authority of the destination; with the path, the query, the method and the body of the request, and a
      slash if there is no path; without a host; with the name of the client alone, or else with the names
      that came; with the values of every other header as they came; and in the version that the client sends
      in.
    * A target that was read from a text is of one of the four forms, and has a path unless it is a bare
      authority.
    * The client sends to the destination that it was made with, in the version, and under the name if there
      is one. -/
theorem copies_are_retargeted (c : HttpClient) :
    (∀ req : Http.Request,
      (∃ out, c.retarget req = .ok out ∧ Retargeted c req out ∧
        ∀ n, c.send n req = (n.exchange out).bind fun answer => pure (judge answer)) ∧
      ∀ text, Http.Target.parse text = .ok req.target →
        ∃ form, req.target.HasForm form ∧ (req.target.HasPath ↔ form ≠ .authority)) ∧
    ∀ destination clientId muxEnabled, make destination clientId muxEnabled = .ok c →
      Destination.parse destination = .ok c.destination ∧
        c.clientId? = (if clientId = "" then none else some (Bytes.ofString clientId)) ∧
        c.muxEnabled = muxEnabled := by
  refine ⟨fun req => ⟨⟨c.retargeted req, c.retarget_eq req, c.retargeted_retargeted req, fun n => rfl⟩, ?_⟩,
    fun destination clientId muxEnabled => eq_of_make⟩
  intro text hparse
  obtain ⟨form, hform⟩ := Http.Target.exists_form_of_parse hparse
  exact ⟨form, hform, Http.Target.hasPath_iff_of_hasForm hform⟩

/-- A request to a bare authority, with two hosts and two names, and a client with a name. -/
theorem copies_are_retargeted_connect :
    let c : HttpClient := ⟨⟨"shadow", 8080⟩, some (Bytes.ofString "router-dark"), true⟩
    let req : Http.Request :=
      { method := "CONNECT"
        target := { authority? := some "api:443", path := "" }
        headers := ⟨[("host", [97]), ("x-client-id", [98]), ("host", [99]), ("x-client-id", [100]),
          ("x-a", [101])]⟩ }
    (∃ out, c.retarget req = .ok out ∧ out.target.text = "http://shadow:8080/" ∧ out.method = "CONNECT" ∧
      out.headers.getAll "host" = [] ∧ out.headers.getAll "x-client-id" = [Bytes.ofString "router-dark"] ∧
      out.headers.getAll "x-a" = [[101]] ∧ out.version = .http2) ∧
    Http.Target.parse "api:443" = .ok req.target ∧ req.target.HasForm .authority ∧
    make "shadow:8080" "router-dark" true = .ok c ∧ Destination.parse "shadow:8080" = .ok c.destination := by
  intro c req
  obtain ⟨hrequests, hmade⟩ := copies_are_retargeted c
  obtain ⟨⟨out, hout, hretargeted, -⟩, hforms⟩ := hrequests req
  have hparse : Http.Target.parse "api:443" = .ok req.target := Except.eq_ok_of_toOption (by decide)
  obtain ⟨form, hform, hhas⟩ := hforms "api:443" hparse
  have hpath : ¬ req.target.HasPath := by simp [Http.Target.HasPath, req]
  have hauthority : form = .authority :=
    Decidable.byContradiction fun hne => hpath (hhas.mpr hne)
  have hmake : make "shadow:8080" "router-dark" true = .ok c :=
    Except.eq_ok_of_toOption (by decide +kernel)
  have htext : out.target.text = "http://shadow:8080/" := by
    obtain ⟨hpath', hquery⟩ := hretargeted.slash hpath
    rw [Http.Target.text, hretargeted.scheme, hretargeted.authority, hpath', hquery]
    decide
  refine ⟨⟨out, hout, htext, hretargeted.method, hretargeted.host, hretargeted.named _ rfl, ?_,
    hretargeted.version⟩, hparse, hauthority ▸ hform, hmake, (hmade _ _ _ hmake).1⟩
  rw [hretargeted.others "x-a" (by decide) (by decide)]
  decide

end Switchyard.Dark.HttpClient
