import TlsEcho.Config.Decode
import TlsEcho.Proofs.Server.Transition

/-!
# Cooldowns that outlast the clock

A cooldown ends at a reading of the clock, and the clock has a last reading.  Validating a
configuration leaves its cooldown as it is, however long, so that a check at the ceiling may have no
end to give.  No other check is without a verdict (`check_eq_error_iff`), and the accept loop of a
running server dies of such a check (`proceed_of_checking`).
-/

namespace TlsEcho

/-- A reading of the clock cannot be moved on exactly if the sum is beyond the last one. -/
theorem Instant.add?_eq_none_iff {t : Instant} {d : Duration} :
    t.add? d = none ↔ clockSeconds * nanosPerSecond ≤ t.nanos + d.nanos := by
  unfold add?
  split
  · simp only [reduceCtorEq, false_iff]
    omega
  · simp only [true_iff]
    omega

/-- Whether a cooldown that begins now ends beyond the last reading of the clock. -/
def Config.Outlasts (c : Config) (now : Instant) : Prop :=
  clockSeconds * nanosPerSecond ≤ now.nanos + c.cooldown.nanos

namespace Admission.Controller

variable {c : Controller} {live : Nat} {now : Instant}

/-- A check fails only at the ceiling, and only if the cooldown that it has to begin has no end. -/
theorem check_eq_error_iff :
    (c.check live now).1 = .error {} ↔ c.phase = .listening ∧ c.limits.maxConnections ≤ live ∧
      now.add? c.limits.cooldown = none := by
  cases hp : c.phase with
  | coolingDown ends => simp [check, hp]
  | listening =>
    by_cases hlive : live < c.limits.maxConnections
    · simp [check, hp, hlive, Nat.not_le_of_lt hlive]
    · have hfull := Nat.le_of_not_lt hlive
      cases hends : now.add? c.limits.cooldown with
      | none => simp [check, hp, hlive, hends, hfull]
      | some ends => simp [check, hp, hlive, hends]

end Admission.Controller

namespace Server

variable {s : Server} {history : List Effect} {actions : List Action} {config : Config}
  {draws : Nat → ConnectionId} {security : Security}

/-- In a server, a check fails if admission listens, the ceiling is reached, and the configured
    cooldown outlasts the clock. -/
theorem check_error_of_run (h : (ofConfig config draws security).run actions = some (s, history))
    {live : Nat} {now : Instant} :
    (s.controller.check live now).1 = .error {} ↔ s.isListening = true ∧
      config.validated.maxConnections ≤ live ∧ config.Outlasts now := by
  obtain ⟨hconfig, hlimits⟩ := limits_of_run h
  rw [Admission.Controller.check_eq_error_iff, Instant.add?_eq_none_iff, isListening_iff, hlimits,
    hconfig]
  -- validating leaves the cooldown as it is
  exact Iff.rfl

/-- A loop that asks admission dies if the check fails, and not otherwise. -/
theorem proceed_of_checking {r : Running} (hr : s.running = some r)
    (hst : r.loop.stage = .checking) :
    ∃ after effects r', s.step .proceed = some (after, effects) ∧ after.running = some r' ∧
      (r'.loop.ending? = some (.failed (.overflow {})) ↔
        (s.controller.check s.liveCount s.clock).1 = .error {}) := by
  have hstep : s.step .proceed = some (s.checkAdmission r) := by
    simp [step, proceed, hr, hst]
  cases hcheck : s.controller.check s.liveCount s.clock with
  | mk answer controller =>
    simp only [checkAdmission, hcheck] at hstep
    cases answer with
    | error e => exact ⟨_, _, _, hstep, rfl, by simp [AcceptLoop.ending?]⟩
    | ok verdict =>
      cases verdict <;> exact ⟨_, _, _, hstep, rfl, by simp [AcceptLoop.ending?]⟩

/-- A check has a verdict, at any count and any reading of the clock, unless admission listens, the
    ceiling is reached and the configured cooldown outlasts the clock.  A loop that asks admission
    then dies, and not otherwise. -/
theorem verdict_iff_of_run (config : Config) (draws : Nat → ConnectionId) (security : Security)
    (actions : List Action) (s : Server) (history : List Effect)
    (h : (ofConfig config draws security).run actions = some (s, history)) :
    (∀ live now, (∃ verdict, (s.controller.check live now).1 = .ok verdict) ↔
      ¬ (s.isListening = true ∧ config.validated.maxConnections ≤ live ∧ config.Outlasts now)) ∧
    (∀ r, s.running = some r → r.loop.stage = .checking →
      ∃ after effects r', s.step .proceed = some (after, effects) ∧ after.running = some r' ∧
        (r'.loop.ending? = some (.failed (.overflow {})) ↔ s.isListening = true ∧
          s.config.maxConnections ≤ s.liveCount ∧ config.Outlasts s.clock)) := by
  constructor
  · intro live now
    rw [← check_error_of_run h]
    cases (s.controller.check live now).1 with
    | error e => simp
    | ok verdict => simp
  · intro r hr hst
    obtain ⟨after, effects, r', hstep, hr', hends⟩ := proceed_of_checking hr hst
    refine ⟨after, effects, r', hstep, hr', hends.trans ?_⟩
    rw [(limits_of_run h).1]
    exact check_error_of_run h

/-- A document that allows one connection and asks for a cooldown of `1e19` seconds. -/
def endlessCooldown : Toml.Entries :=
  [("max_connections", .integer 1), ("cooldown_secs", .float (.ofDecimal false 1 19))]

/-- What the document sets. -/
def endlessSettings : List Setting :=
  [.maxConnections 1, .cooldown ⟨Nat.pow 10 19 * nanosPerSecond, by decide⟩]

/-- A client takes the only place, and the loop asks admission again. -/
def askedAtCeiling : List Action :=
  [.start { bound := .ok { ip := .v4 127 0 0 1, port := 8443 } }, .event (.connect none),
    .event .proceed, .event .proceed, .event .proceed, .event .draw, .event .accept,
    .event .proceed, .event (.session 0 .go), .event (.session 0 .go),
    .event (.session 0 (.handshake (.ok ())))]

theorem verdict_iff_of_run_askedAtCeiling :
    ∃ s history r, (ofConfig ((Config.default 2).setAll endlessSettings)
        (fun n => ⟨.ofNat n⟩)).run askedAtCeiling = some (s, history) ∧ s.running = some r ∧
      r.loop.stage = .checking ∧
      ∃ after effects r', s.step .proceed = some (after, effects) ∧ after.running = some r' ∧
        r'.loop.ending? = some (.failed (.overflow {})) := by
  have hview : ((ofConfig ((Config.default 2).setAll endlessSettings)
      (fun n => ⟨.ofNat n⟩)).run askedAtCeiling).map (fun out =>
        (out.1.running.map fun r => r.loop.stage, out.1.isListening, out.1.config.maxConnections,
          out.1.liveCount, out.1.clock.nanos)) = some (some .checking, true, 1, 1, 0) := by
    decide
  obtain ⟨⟨s, history⟩, hrun, hview⟩ := Option.map_eq_some_iff.1 hview
  simp only [Prod.mk.injEq] at hview
  obtain ⟨hstage, hlistens, hmax, hlive, hclock⟩ := hview
  obtain ⟨r, hr, hstage⟩ := Option.map_eq_some_iff.1 hstage
  obtain ⟨after, effects, r', hstep, hr', hends⟩ :=
    (verdict_iff_of_run _ _ _ _ _ _ hrun).2 r hr hstage
  have hfull : s.config.maxConnections ≤ s.liveCount := by omega
  refine ⟨s, history, r, hrun, hr, hstage, after, effects, r', hstep, hr', ?_⟩
  refine hends.2 ⟨hlistens, hfull, ?_⟩
  rw [Config.Outlasts, hclock]
  decide

/-- The document is accepted and its configuration valid, and still a check under it fails. -/
theorem check_fails_endlessCooldown :
    Setting.ofEntries .document endlessCooldown = .ok endlessSettings ∧
    ((Admission.Controller.ofLimits
      ((Config.default 2).setAll endlessSettings).validated.limits).check 1 .start).1 =
        .error {} := by
  constructor
  · have hfloat : Binary64.ofDecimal false 1 19 = .finite false 4882812500000000 11 := by
      decide +kernel
    rw [endlessCooldown, hfloat]
    rfl
  · exact Admission.Controller.check_eq_error_iff.2 ⟨rfl, by decide, by decide⟩

end Server

end TlsEcho
