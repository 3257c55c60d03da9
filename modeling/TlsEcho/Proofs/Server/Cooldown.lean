import TlsEcho.Proofs.Server.Accounting
import TlsEcho.Proofs.Server.WakeUp

/-!
# Cooldowns

A cooldown begins with the check that finds the ceiling reached, and the loop itself ends it when it
resumes.  In between admission stays as the check has left it, the loop only waits, and the sessions
go on.  `Cooling` collects what holds meanwhile, and `Cooling.act` says that every action keeps it,
unless the loop resumes or the server is shut down.  The loop resumes only after its wait, which
ends with the cooldown or later.

A run from the check on is `Undisturbed` until the loop resumes or the server is shut down, and as
far as it is, `Cooling` holds at every point of it.
-/

namespace TlsEcho

namespace Server

variable {s s' before : Server} {ends : Instant} {e : Event} {a : Action}
  {effects more : List Effect} {actions : List Action}

/-! ## A loop that cools down -/

/-- Where the loop stands in a cooldown: it waits for the end, or the end has come, or the loop has
    been told to stop and has done so. -/
def Pausing (ends now : Instant) (r : Running) : Prop :=
  match r.loop.stage with
  | .coolingDown wakes => wakes = some ends ∧ r.loop.stopWatcher.seen = 0
  | .coolingOver => ends.nanos ≤ now.nanos
  | .ended how => how = .stopped ∧ 0 < r.stopRequests
  | _ => False

/-- Whether an effect brings in a connection: a socket is accepted or a session is started. -/
def Effect.bringsIn : Effect → Bool
  | .acceptEnded (some _) | .sessionStarted .. => true
  | _ => false

/-- What holds during a cooldown that the check at `before` has begun. -/
structure Cooling (before : Server) (ends : Instant) (effects : List Effect) (s : Server) :
    Prop where
  phase : s.controller.phase = .coolingDown ends
  loop : ∃ r, s.running = some r ∧ Pausing ends s.clock r
  /-- No connection has been brought in. -/
  unserved : effects.any Effect.bringsIn = false
  /-- Ids have been released and none has been claimed. -/
  active : s.occupancy.registry.active.Sublist before.occupancy.registry.active

/-- Whether the next action is the one by which the loop ends the cooldown. -/
def Resumes (s : Server) (a : Action) : Prop :=
  a = .event .proceed ∧ ∃ r, s.running = some r ∧ r.loop.stage = .coolingOver

/-- The loop resumes when the cooldown is over, and not before. -/
theorem Cooling.ends_le (h : Cooling before ends effects s) (hres : s.Resumes a) :
    ends.nanos ≤ s.clock.nanos := by
  obtain ⟨r, hr, hp⟩ := h.loop
  obtain ⟨-, r', hr', hst⟩ := hres
  obtain rfl := Option.some.inj (hr.symm.trans hr')
  simpa [Pausing, hst] using hp

/-- What leaves admission alone and makes no id active keeps a cooldown going. -/
private theorem Cooling.of_loop (h : Cooling before ends effects s)
    (hcontroller : s'.controller = s.controller)
    (hactive : s'.occupancy.registry.active.Sublist s.occupancy.registry.active)
    (hmore : more.any Effect.bringsIn = false)
    (hloop : ∃ r, s'.running = some r ∧ Pausing ends s'.clock r) :
    Cooling before ends (effects ++ more) s' where
  phase := by rw [hcontroller]; exact h.phase
  loop := hloop
  unserved := by rw [List.any_append, h.unserved, hmore]; rfl
  active := hactive.trans h.active

/-- A pausing loop that waits has not seen any request to stop. -/
private theorem pausing_of_isParked {now : Instant} {r : Running} (hp : Pausing ends now r)
    (hparked : r.loop.isParked = true) : r.loop.stopWatcher.seen = 0 := by
  unfold Pausing at hp
  unfold AcceptLoop.isParked at hparked
  split at hp <;> simp_all

private theorem Pausing.signalStop {now : Instant} {r : Running} (hp : Pausing ends now r) :
    Pausing ends now { r with stopRequests := r.stopRequests + 1 } := by
  unfold Pausing at hp ⊢
  split <;> simp_all

private theorem Pausing.advance {now later : Instant} {r : Running} (hp : Pausing ends now r)
    (hle : now.nanos ≤ later.nanos) : Pausing ends later r := by
  unfold Pausing at hp ⊢
  split <;> simp_all
  omega

private theorem bringsIn_session {c : Nat} {log : List Log.Record}
    {emitted : List Session.Effect} :
    (log.map Effect.log ++ emitted.map (Effect.session c)).any Effect.bringsIn = false := by
  simp [Effect.bringsIn]

/-- No step of a server ends a cooldown but the loop's own, or brings in a connection before. -/
theorem Cooling.step (h : Cooling before ends effects s) (ht : Transition s e s' more)
    (hres : ¬ s.Resumes (.event e)) : Cooling before ends (effects ++ more) s' := by
  obtain ⟨r, hr, hp⟩ := h.loop
  cases ht with
  | session hstep =>
    obtain ⟨_, _, _, -, -, rfl, rfl⟩ := stepSession_eq_some.1 hstep
    exact h.of_loop rfl (Occupancy.active_applyAll ..) bringsIn_session ⟨r, hr, hp⟩
  | drawStray => exact h.of_loop rfl (List.Sublist.refl _) rfl ⟨r, hr, hp⟩
  | @advance d clock hadd =>
    have hclock := Instant.nanos_of_add? hadd
    have hle : s.clock.nanos ≤ clock.nanos := by omega
    exact h.of_loop rfl (List.Sublist.refl _) rfl ⟨r, hr, hp.advance hle⟩
  | connect hr' | draw hr' | drawFails hr' =>
    obtain rfl := Option.some.inj (hr.symm.trans hr')
    exact h.of_loop rfl (List.Sublist.refl _) rfl ⟨_, rfl, hp⟩
  | signalStop hr' =>
    obtain rfl := Option.some.inj (hr.symm.trans hr')
    exact h.of_loop rfl (List.Sublist.refl _) rfl ⟨_, rfl, hp.signalStop⟩
  | stop hr' hparked hmissed =>
    obtain rfl := Option.some.inj (hr.symm.trans hr')
    -- the loop ends only if there is a request that it has not seen
    have hseen := pausing_of_isParked hp hparked
    have hrequests : 0 < r.stopRequests := by
      simp only [Admission.Watcher.hasMissed, hseen, bne_iff_ne] at hmissed
      omega
    exact h.of_loop rfl (List.Sublist.refl _) (by simp [Effect.bringsIn]) ⟨_, rfl, rfl, hrequests⟩
  | @wakeUp _ wakes hr' hst hover =>
    obtain rfl := Option.some.inj (hr.symm.trans hr')
    -- the wait ends with the cooldown
    simp only [Pausing, hst] at hp
    obtain ⟨rfl, -⟩ := hp
    have hle : ends.nanos ≤ s.clock.nanos := by simpa [AcceptLoop.isOver] using hover
    exact h.of_loop rfl (List.Sublist.refl _) rfl ⟨_, rfl, hle⟩
  | resume hr' hst => exact absurd ⟨rfl, _, hr', hst⟩ hres
  -- the loop pauses, so it stands in none of the stages of the other steps
  | subscribe hr' hst | permit hr' hst | coolDown hr' hst | coolOn hr' hst | overflow hr' hst
  | catchUp hr' hst | keepCandidate hr' hst | spawnCandidate hr' hst | openSession hr' hst
  | collide hr' hst | missCandidate hr' hst | accept hr' hst | acceptFails hr' hst
  | liveChanged hr' hst | retry hr' hst =>
    obtain rfl := Option.some.inj (hr.symm.trans hr')
    simp [Pausing, hst] at hp

/-- No action ends a cooldown but the loop's own step and a shutdown.  The server runs, so that to
    start it does nothing. -/
theorem Cooling.act (h : Cooling before ends effects s) (hact : s.act a = some (s', more))
    (hres : ¬ s.Resumes a) (hshut : ∀ context, a ≠ .shutdown context) :
    Cooling before ends (effects ++ more) s' := by
  cases a with
  | event e => exact h.step (step_transition hact) hres
  | shutdown context => exact absurd rfl (hshut context)
  | start host =>
    obtain ⟨r, hr, hp⟩ := h.loop
    obtain ⟨rfl, rfl | ⟨hnone, -⟩ | ⟨hnone, -⟩⟩ := act_start_eq_some hact
    · exact h.of_loop rfl (List.Sublist.refl _) (by simp [Effect.bringsIn]) ⟨r, hr, hp⟩
    · simp [hr] at hnone
    · simp [hr] at hnone

/-! ## Runs from the check on -/

/-- Whether the loop does not resume in a run and the server is not shut down. -/
def Undisturbed (s : Server) : List Action → Prop
  | [] => True
  | a :: rest => ¬ s.Resumes a ∧ (∀ context, a ≠ .shutdown context) ∧
      ∀ s₁ effects, s.act a = some (s₁, effects) → s₁.Undisturbed rest

/-- A cooldown goes on until the loop resumes or the server is shut down. -/
theorem Cooling.run (h : Cooling before ends more s) (hu : s.Undisturbed actions)
    (hrun : s.run actions = some (s', effects)) : Cooling before ends (more ++ effects) s' := by
  induction actions generalizing s more effects with
  | nil =>
    obtain ⟨rfl, rfl⟩ := hrun
    simpa using h
  | cons a rest ih =>
    obtain ⟨s₁, first, later, hact, hrest, rfl⟩ := run_cons_eq_some.1 hrun
    obtain ⟨hres, hshut, hu⟩ := hu
    rw [← List.append_assoc]
    exact ih (h.act hact hres hshut) (hu s₁ first hact) hrest

/-- In a cooldown the active ids only become fewer. -/
private theorem Cooling.active_run (h : Cooling before ends more s) (hu : s.Undisturbed actions)
    (hrun : s.run actions = some (s', effects)) :
    s'.occupancy.registry.active.Sublist s.occupancy.registry.active := by
  -- the cooldown goes on as if it had begun here
  have hhere : Cooling s ends [] s := ⟨h.phase, h.loop, rfl, List.Sublist.refl _⟩
  exact (hhere.run hu hrun).active

/-- The check that enters a cooldown fixes when it ends. -/
private theorem cooling_of_check {s₀ s₁ : Server} {first : List Effect}
    (hunseen : ∀ r, s₀.running = some r → r.loop.ending? = none → r.loop.stopWatcher.seen = 0)
    (hlisten : s₀.isListening = true) (hcheck : s₀.step .proceed = some (s₁, first))
    (hcool : s₁.controller.phase = .coolingDown ends) :
    s₀.clock.add? s₀.controller.limits.cooldown = some ends ∧ Cooling s₀ ends [] s₁ := by
  have hp : s₀.controller.phase = .listening := by
    simpa [isListening, Admission.Controller.isListening] using hlisten
  cases step_transition hcheck with
  | coolDown hr hst hphase hfull hends =>
    obtain rfl := Admission.Phase.coolingDown.inj hcool
    refine ⟨hends, hcool, ⟨_, rfl, rfl, ?_⟩, rfl, List.Sublist.refl _⟩
    exact (hunseen _ hr (by simp [AcceptLoop.ending?, hst]) :)
  | resume => simp [Admission.Controller.resume] at hcool
  | _ => simp_all

/-- Whatever happens after the check that enters a cooldown, until the loop itself resumes or the
    server is shut down: admission cools down until the cooldown has passed since that check, no
    socket is accepted, no session is started and no id is claimed.  The active ids only become
    fewer, so that no more connections are live than ids were active at the check.  The loop goes on
    waiting, unless it was told to stop and has ended, and it does not resume before the cooldown is
    over. -/
theorem cooling_of_run (config : Config) (draws : Nat → ConnectionId) (security : Security)
    (past actions : List Action) (s₀ s₁ s : Server) (history first effects : List Effect)
    (ends : Instant) (hpast : (ofConfig config draws security).run past = some (s₀, history))
    (hlisten : s₀.isListening = true) (hcheck : s₀.step .proceed = some (s₁, first))
    (hcool : s₁.controller.phase = .coolingDown ends)
    (hrun : s₁.run actions = some (s, effects)) (hu : s₁.Undisturbed actions) :
    ends.nanos = s₀.clock.nanos + s₀.config.cooldown.nanos ∧
    Cooling s₀ ends effects s ∧ s.liveCount ≤ s₀.activeCount ∧
    (∀ a, s.Resumes a → ends.nanos ≤ s.clock.nanos) ∧
    (∀ later s' more, s.run later = some (s', more) → s.Undisturbed later →
      s'.occupancy.registry.active.Sublist s.occupancy.registry.active) := by
  obtain ⟨hends, hbegun⟩ := cooling_of_check (heeds_of_run hpast).unseen hlisten hcheck hcool
  have hnanos := Instant.nanos_of_add? hends
  rw [(limits_of_run hpast).2] at hnanos
  have hcooling := hbegun.run hu hrun
  -- the server is still one that a run of its own has reached
  have hone : s₀.run (.event .proceed :: actions) = some (s, first ++ effects) :=
    run_cons_eq_some.2 ⟨s₁, first, effects, hcheck, hrun, rfl⟩
  have hlive := (accounted_of_run (run_append hpast hone)).liveCount_le
  exact ⟨hnanos, hcooling, Nat.le_trans hlive hcooling.active.length_le,
    fun _ hres => hcooling.ends_le hres, fun _ _ _ hlater hu => hcooling.active_run hu hlater⟩

/-- After a second a client takes the only place, and the loop is about to ask admission again. -/
def ceilingReached : List Action :=
  [.start { bound := .ok { ip := .v4 127 0 0 1, port := 8443 } },
    .event (.advance (.ofSeconds 1)), .event (.connect none), .event .proceed, .event .proceed,
    .event .proceed, .event .draw, .event .accept, .event .proceed, .event (.session 0 .go),
    .event (.session 0 .go), .event (.session 0 (.handshake (.ok ())))]

/-- Another client has to wait until the cooldown is over, although the place is free at once. -/
def placeFreed : List Action :=
  [.event (.connect none), .event (.session 0 .abandon), .event (.advance (.ofSeconds 5)),
    .event .wake]

theorem cooling_of_run_placeFreed :
    ∃ s₀ s₁ s history first effects ends,
      (ofConfig { Config.default 2 with maxConnections := 1 }
        (fun n => ⟨.ofNat n⟩)).run ceilingReached = some (s₀, history) ∧
      s₀.step .proceed = some (s₁, first) ∧ s₁.run placeFreed = some (s, effects) ∧
      ends.nanos = 6 * nanosPerSecond ∧ Cooling s₀ ends effects s ∧ s.liveCount ≤ 1 := by
  have hview : ((ofConfig { Config.default 2 with maxConnections := 1 }
      (fun n => ⟨.ofNat n⟩)).run ceilingReached).map (fun out =>
        (out.1.isListening, out.1.activeCount, (out.1.step .proceed).map fun next =>
          (next.1.controller.phase, (next.1.run placeFreed).isSome))) =
      some (true, 1, some (.coolingDown ⟨6 * nanosPerSecond, by decide⟩, true)) := by decide
  obtain ⟨⟨s₀, history⟩, hpast, hview⟩ := Option.map_eq_some_iff.1 hview
  simp only [Prod.mk.injEq] at hview
  obtain ⟨hlisten, hactive, hnext⟩ := hview
  obtain ⟨⟨s₁, first⟩, hcheck, hnext⟩ := Option.map_eq_some_iff.1 hnext
  obtain ⟨hcool, hlater⟩ := Prod.mk.inj hnext
  obtain ⟨⟨s, effects⟩, hrun⟩ := Option.isSome_iff_exists.1 hlater
  have hu : s₁.Undisturbed placeFreed := by simp [placeFreed, Undisturbed, Resumes]
  obtain ⟨-, hcooling, hlive, -⟩ := cooling_of_run _ _ _ _ _ s₀ s₁ s history first effects _
    hpast hlisten hcheck hcool hrun hu
  exact ⟨s₀, s₁, s, history, first, effects, _, hpast, hcheck, hrun, rfl, hcooling,
    hactive ▸ hlive⟩

end Server

end TlsEcho
