import Switchyard.Config.Load
import Switchyard.Proofs.App.Assembly

/-!
  Which configurations an application starts with.

  Of what a configuration says, only dark traffic can keep the application from being built: the client
  that sends copies reads its destination and its own id.  The destination is checked when the
  configuration is, by the same reader; the id is not.

  So the main statement, `accepted_config_starts`, has a condition (`Config.DarkTraffic.Nameable`): with a
  valid configuration the application can be built if and only if no copies are sent, or the id can stand in
  a header.  `accepted_config_is_refused` is a valid configuration without this.
-/

namespace Switchyard

/-! ## What is checked -/

namespace Config

/-- The client of dark traffic can name itself in a header, if there is a client. -/
def DarkTraffic.Nameable (c : DarkTraffic) : Prop :=
  c.destination? = none ∨ Http.isHeaderValue (Bytes.ofString c.clientId) = true

/-- A text that is no destination is a problem. -/
theorem checkDestination_of_error {s : String} {e : Dark.Error} (h : Dark.Destination.parse s = .error e) :
    checkDestination (some s) = [⟨.destination, .unusable e⟩] := by
  -- the equations of the definition are slow to make, since they hold by evaluating the reader
  delta checkDestination
  simp only [h]

/-- The destination of a valid configuration is one. -/
theorem destination_of_isValid {c : Config} (h : c.isValid = true) {s : String}
    (hs : c.darkTraffic.destination? = some s) : ∃ d, Dark.Destination.parse s = .ok d := by
  have hnone : c.problems = [] := List.isEmpty_iff.mp h
  have hlast : checkDestination (some s) = [] := hs ▸ (List.append_eq_nil_iff.mp hnone).2
  cases hparse : Dark.Destination.parse s with
  | ok d => exact ⟨d, rfl⟩
  | error e =>
    cases hlast.symm.trans (checkDestination_of_error hparse)

/-- A configuration that is read from a text is valid. -/
theorem isValid_of_parse {text : String} {c : Config} (h : Config.parse text = .ok c) :
    c.isValid = true := by
  rw [Config.parse] at h
  cases hread : (Toml.parse text).bind ofValue with
  | none =>
    rw [hread] at h
    cases h
  | some c' =>
    rw [hread] at h
    change c'.validate.mapError Fault.validation = .ok c at h
    by_cases hvalid : c'.isValid = true
    · rw [validate, if_pos hvalid] at h
      obtain rfl := Except.ok.inj h
      exact hvalid
    · rw [validate, if_neg hvalid] at h
      cases h

end Config

/-! ## The client of dark traffic -/

namespace Dark

/-- What is wrong with an id that cannot stand in a header. -/
def unnameable : String := "invalid client id: failed to parse header value"

namespace HttpClient

theorem readClientId_of_isHeaderValue {s : String} (h : Http.isHeaderValue (Bytes.ofString s) = true) :
    ∃ id?, readClientId s = .ok id? := by
  by_cases hempty : s.isEmpty = true
  · exact ⟨none, if_pos hempty⟩
  · refine ⟨some (Bytes.ofString s), ?_⟩
    rw [readClientId, if_neg hempty, if_pos h]

theorem readClientId_of_not_isHeaderValue {s : String}
    (h : ¬ Http.isHeaderValue (Bytes.ofString s) = true) : readClientId s = .error unnameable := by
  have hempty : ¬ s.isEmpty = true := by
    intro hempty
    rw [String.isEmpty_iff.mp hempty] at h
    exact h rfl
  rw [readClientId, if_neg hempty, if_neg h]
  rfl

/-- With a destination that is one, only the id decides whether there is a client. -/
theorem make_of_parse {destination : String} {d : Destination}
    (h : Destination.parse destination = .ok d) (clientId : String) (muxEnabled : Bool) :
    make destination clientId muxEnabled = match readClientId clientId with
      | .ok clientId? => .ok ⟨d, clientId?, muxEnabled⟩
      | .error reason => .error (.invalidDestination destination reason) := by
  rw [make, h]
  rfl

end HttpClient

namespace Setup

variable {σ : Type} {c : Config.DarkTraffic}

/-- Dark traffic can be set up if its client can name itself, and there is a filter if there is a
    destination. -/
theorem ofConfig_of_nameable (hparse : ∀ s, c.destination? = some s → ∃ d, Destination.parse s = .ok d)
    (h : c.Nameable) (draw : σ → Float × σ) (n : Network) (id : DarkId) :
    ∃ setup, ofConfig draw n id c = .ok setup ∧ setup.settings?.isSome = c.destination?.isSome := by
  cases hdestination : c.destination? with
  | none =>
    rw [ofConfig, hdestination]
    exact ⟨_, rfl, rfl⟩
  | some destination =>
    obtain ⟨d, hd⟩ := hparse destination hdestination
    have hvalue : Http.isHeaderValue (Bytes.ofString c.clientId) = true :=
      h.resolve_left fun hnone => by cases hnone.symm.trans hdestination
    obtain ⟨id?, hid⟩ := HttpClient.readClientId_of_isHeaderValue hvalue
    have hmake := HttpClient.make_of_parse hd c.clientId c.muxEnabled
    rw [hid] at hmake
    rw [ofConfig, hdestination]
    simp only [hmake]
    exact ⟨_, rfl, rfl⟩

/-- It cannot be set up if its client cannot name itself. -/
theorem ofConfig_of_not_isHeaderValue {destination : String}
    (hdestination : c.destination? = some destination) {d : Destination}
    (hd : Destination.parse destination = .ok d)
    (h : ¬ Http.isHeaderValue (Bytes.ofString c.clientId) = true) (draw : σ → Float × σ) (n : Network)
    (id : DarkId) : ofConfig draw n id c = .error (.invalidDestination destination unnameable) := by
  have hmake := HttpClient.make_of_parse hd c.clientId c.muxEnabled
  rw [HttpClient.readClientId_of_not_isHeaderValue h] at hmake
  rw [ofConfig, hdestination]
  simp only [hmake]
  rfl

end Setup
end Dark

/-! ## Starting -/

namespace App

/-- **With a valid configuration the application starts, if its client of dark traffic can name itself.**

    * What is read from a text is a valid configuration.
    * If the client can name itself, dark traffic is set up, with a filter if a destination is given, and
      the application is built, whatever network it is to send over and whatever ids are generated.
    * Otherwise both are refused, with the destination and what is wrong with the id. -/
theorem accepted_config_starts (c : Config) :
    (∀ text, Config.parse text = .ok c → c.isValid = true) ∧
    (c.isValid = true → c.darkTraffic.Nameable →
      (∀ {σ : Type} (draw : σ → Float × σ) (n : Dark.Network) (id : DarkId), ∃ setup,
        Dark.Setup.ofConfig draw n id c.darkTraffic = .ok setup ∧
          setup.settings?.isSome = c.darkTraffic.destination?.isSome) ∧
      ∀ n ids, ∃ app, buildWith ids c n = .ok app) ∧
    (c.isValid = true → ¬ c.darkTraffic.Nameable →
      ∃ destination, c.darkTraffic.destination? = some destination ∧
        (∀ {σ : Type} (draw : σ → Float × σ) (n : Dark.Network) (id : DarkId),
          Dark.Setup.ofConfig draw n id c.darkTraffic
            = .error (.invalidDestination destination Dark.unnameable)) ∧
        ∀ n ids, buildWith ids c n = .error (.dark (.invalidDestination destination Dark.unnameable))) := by
  refine ⟨fun text => Config.isValid_of_parse, fun hvalid hname => ⟨?_, fun n ids => ?_⟩,
    fun hvalid hname => ?_⟩
  · intro σ draw n id
    exact Dark.Setup.ofConfig_of_nameable (fun s => Config.destination_of_isValid hvalid) hname draw n id
  · obtain ⟨dark, hdark, -⟩ := Dark.Setup.ofConfig_of_nameable
      (fun s => Config.destination_of_isValid hvalid) hname State.draw n darkId
    obtain ⟨router, app, -, hbuild, -⟩ := build_of_setup hdark ids
    exact ⟨app, hbuild⟩
  · obtain ⟨hsome, hvalue⟩ := not_or.mp hname
    obtain ⟨destination, hdestination⟩ := Option.ne_none_iff_exists'.mp hsome
    obtain ⟨d, hd⟩ := Config.destination_of_isValid hvalid hdestination
    refine ⟨destination, hdestination, fun draw n id => ?_, fun n ids => build_of_setup_error ?_ ids⟩
    · exact Dark.Setup.ofConfig_of_not_isHeaderValue hdestination hd hvalue draw n id
    · exact Dark.Setup.ofConfig_of_not_isHeaderValue hdestination hd hvalue State.draw n darkId

/-- A destination, and an id that can stand in a header. -/
theorem accepted_config_starts_shadow :
    let c : Config := { darkTraffic := { destination? := some "[::1]:9000", clientId := "router-dark" } }
    c.isValid = true ∧ ∃ app, build c .isolated = .ok app := by
  intro c
  have hvalid : c.isValid = true := by decide
  obtain ⟨-, hstarts, -⟩ := accepted_config_starts c
  exact ⟨hvalid, (hstarts hvalid (Or.inr (by decide))).2 .isolated Http.nthRequestId⟩

/-- **A configuration that is accepted need not start**: a line break in the id is not looked at until the
    client of dark traffic is made. -/
theorem accepted_config_is_refused :
    ∃ text c destination, Config.parse text = .ok c ∧ c.isValid = true ∧
      (∀ n, Dark.Setup.ofConfig State.draw n darkId c.darkTraffic
        = .error (.invalidDestination destination Dark.unnameable)) ∧
      ∀ n ids, buildWith ids c n = .error (.dark (.invalidDestination destination Dark.unnameable)) := by
  let text := "[dark_traffic]\ndestination = \"127.0.0.1:9000\"\nclient_id = \"a\\nb\"\n"
  have hread : (Config.parse text).toOption.map
      (fun c => (c.darkTraffic.destination?, c.darkTraffic.clientId))
      = some (some "127.0.0.1:9000", "a\nb") := by decide +kernel
  cases hparse : Config.parse text with
  | error e =>
    rw [hparse] at hread
    cases hread
  | ok c =>
    rw [hparse] at hread
    obtain ⟨hdestination, hid⟩ := Prod.mk.inj (Option.some.inj hread)
    have hvalid := Config.isValid_of_parse hparse
    obtain ⟨d, hd⟩ := Config.destination_of_isValid hvalid hdestination
    have hvalue : ¬ Http.isHeaderValue (Bytes.ofString c.darkTraffic.clientId) = true := by
      rw [hid]
      decide
    have hrefused := Dark.Setup.ofConfig_of_not_isHeaderValue hdestination hd hvalue State.draw
    exact ⟨text, c, _, hparse, hvalid, fun n => hrefused n darkId,
      fun n ids => build_of_setup_error (hrefused n darkId) ids⟩

end App
end Switchyard
