import TunnelServer.Server.Basic

/-!
# When a configuration is valid

The checks of a configuration are independent of each other: it is valid exactly if it passes each
of them, and then nothing in it stands in the way of a server.
-/

namespace TunnelServer

theorem ServerConfig.validate_eq_ok_iff {config : ServerConfig} : config.validate = .ok () ↔
    config.password.isEmpty = false ∧ config.port ≠ 0 ∧ config.relayBufferSize ≠ 0 ∧
      config.timeouts.validate = .ok () ∧ ∃ secret, config.secret = .ok secret := by
  have made : (∃ secret, config.secretOrFault = .ok secret) ↔
      ∃ secret, config.secret = .ok secret := by
    rw [secretOrFault]
    cases config.secret with
    | error cause => exact ⟨nofun, nofun⟩
    | ok secret => exact ⟨fun _ => ⟨secret, rfl⟩, fun _ => ⟨secret, rfl⟩⟩
  rw [← made]
  by_cases password : config.password.isEmpty = true
  · have stops : config.validate = .error .passwordMissing := by
      rw [validate, if_pos password]
      rfl
    simp [stops, password]
  by_cases port : config.port = 0
  · have stops : config.validate = .error .portMissing := by
      rw [validate, if_neg password, if_pos port]
      rfl
    simp [stops, port]
  by_cases buffer : config.relayBufferSize = 0
  · have stops : config.validate = .error .relayBufferEmpty := by
      rw [validate, if_neg password, if_neg port, if_pos buffer]
      rfl
    simp [stops, buffer]
  have goes : config.validate =
      config.timeouts.validate >>= fun _ => config.secretOrFault >>= fun _ => pure () := by
    rw [validate, if_neg password, if_neg port, if_neg buffer]
  rw [goes]
  cases config.timeouts.validate <;> cases config.secretOrFault <;>
    simp [password, port, buffer, Bind.bind, Except.bind, pure, Except.pure]

/-- A configuration that a server can run with. -/
structure ServerConfig.Valid (config : ServerConfig) : Prop where
  password : config.password ≠ ""
  fits : (Utf8.encode config.password).length ≤ 64
  port : config.port ≠ 0
  relayBuffer : config.relayBufferSize ≠ 0
  handshake : config.timeouts.handshake ≠ 0
  transfer : config.timeouts.transfer ≠ 0
  connect : config.timeouts.connect ≠ 0

theorem Secret.exists_ofPassword_iff {password : String} :
    (∃ secret, Secret.ofPassword password = .ok secret) ↔ (Utf8.encode password).length ≤ 64 := by
  rw [Secret.ofPassword]
  by_cases fits : (Utf8.encode password).length ≤ Secret.length
  · rw [dif_pos fits]
    exact ⟨fun _ => fits, fun _ => ⟨_, rfl⟩⟩
  · rw [dif_neg fits]
    exact ⟨nofun, fun short => absurd short fits⟩

theorem TimeoutConfig.validate_eq_ok_iff {timeouts : TimeoutConfig} :
    timeouts.validate = .ok () ↔
      timeouts.handshake ≠ 0 ∧ timeouts.transfer ≠ 0 ∧ timeouts.connect ≠ 0 := by
  by_cases handshake : timeouts.handshake = 0 <;> by_cases transfer : timeouts.transfer = 0 <;>
    by_cases connect : timeouts.connect = 0 <;>
    simp [validate, requirePositive, handshake, transfer, connect, Bind.bind, Except.bind]

theorem ServerConfig.validate_eq_ok_iff_valid {config : ServerConfig} :
    config.validate = .ok () ↔ config.Valid := by
  rw [validate_eq_ok_iff, TimeoutConfig.validate_eq_ok_iff, secret, Secret.exists_ofPassword_iff,
    Bool.eq_false_iff, ne_eq, String.isEmpty_iff]
  constructor
  · rintro ⟨password, port, relayBuffer, ⟨handshake, transfer, connect⟩, fits⟩
    exact ⟨password, fits, port, relayBuffer, handshake, transfer, connect⟩
  · rintro ⟨password, fits, port, relayBuffer, handshake, transfer, connect⟩
    exact ⟨password, port, relayBuffer, ⟨handshake, transfer, connect⟩, fits⟩

/-- Nothing in a valid configuration stands in the way of a server. -/
theorem ServerConfig.Valid.exists_server {config : ServerConfig} (h : config.Valid)
    (machine : Machine) : ∃ server, Server.ofConfig machine config = .ok server := by
  have limits := TimeoutConfig.validate_eq_ok_iff.mpr ⟨h.handshake, h.transfer, h.connect⟩
  obtain ⟨secret, made⟩ := Secret.exists_ofPassword_iff.mpr h.fits
  have found : config.secretOrFault = .ok secret := by
    rw [secretOrFault, ServerConfig.secret, made]
    rfl
  rw [Server.ofConfig, limits, found]
  exact ⟨_, rfl⟩

end TunnelServer
