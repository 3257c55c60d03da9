import TlsEcho.Proofs.Server.Transition
import TlsEcho.Proofs.Session.Resources

/-!
# What wakes the accept loop

While an accept is outstanding the loop sleeps, and the ceiling may be reached meanwhile.  `Alert`
says why it does not sleep through that: the count that admission was asked about is one that the
loop had marked as seen, or a later one.  So if the loop has seen the present version, the count has
not moved since the answer, and the answer still holds.

`Heeds` says the same of a request to stop.  The loop marks a request as seen only when it ends, so
one that has been made is noticed in the next wait, whichever that is.
-/

namespace TlsEcho.Server

variable {s s' : Server} {e : Event} {effects : List Effect} {actions : List Action}

/-! ## The counter of live connections -/

/-- The version of the live counter never goes back, and while it stands still so does the count. -/
theorem live_step (ht : Transition s e s' effects) :
    s.occupancy.live.version ≤ s'.occupancy.live.version ∧
    (s.occupancy.live.version = s'.occupancy.live.version → s'.liveCount = s.liveCount) := by
  cases ht with
  | session hstep =>
    obtain ⟨_, _, _, -, -, rfl, -⟩ := stepSession_eq_some.1 hstep
    exact Occupancy.live_applyAll ..
  | _ => exact ⟨Nat.le_refl _, fun _ => rfl⟩

/-- A loop that waits for a connection was allowed to, and unless the counter has moved since it
    last looked it still is. -/
def Alert (s : Server) : Prop :=
  ∀ r, s.running = some r → r.loop.watcher.seen ≤ s.occupancy.live.version ∧
    (r.loop.stage = .choosing ∨ r.loop.stage = .accepting → s.controller.phase = .listening ∧
      (r.loop.watcher.seen = s.occupancy.live.version →
        s.liveCount < s.controller.limits.maxConnections))

/-- Every step keeps the loop alert: what it has seen is never newer than the counter, and the
    answer of admission is not older than what it has seen. -/
theorem Alert.step (h : Alert s) (ht : Transition s e s' effects) : Alert s' := by
  cases ht with
  | session hstep =>
    have hlive := live_step (.session hstep)
    obtain ⟨_, _, _, -, -, rfl, -⟩ := stepSession_eq_some.1 hstep
    intro r hr
    obtain ⟨hle, hwaits⟩ := h r hr
    refine ⟨Nat.le_trans hle hlive.1, fun hst => ⟨(hwaits hst).1, fun hseen => ?_⟩⟩
    -- the version has not moved past what the loop has seen, so it has not moved at all
    have hversion := Nat.le_antisymm hlive.1 (hseen ▸ hle)
    rw [hlive.2 hversion]
    exact (hwaits hst).2 (hseen.trans hversion.symm)
  | permit hr hst hp hlive =>
    -- admission has just been asked about the present count
    rintro _ ⟨rfl⟩
    exact ⟨(h _ hr).1, fun _ => ⟨hp, fun _ => hlive⟩⟩
  | keepCandidate hr hst | spawnCandidate hr hst =>
    rintro _ ⟨rfl⟩
    exact ⟨(h _ hr).1, fun _ => (h _ hr).2 (.inl hst)⟩
  | subscribe hr | catchUp hr | liveChanged hr =>
    rintro _ ⟨rfl⟩
    exact ⟨Nat.le_refl _, by simp⟩
  | coolDown hr | coolOn hr | overflow hr | resume hr | openSession hr | collide hr
  | missCandidate hr | accept hr | acceptFails hr | stop hr | wakeUp hr | retry hr =>
    rintro _ ⟨rfl⟩
    exact ⟨(h _ hr).1, by simp⟩
  | connect hr | draw hr | drawFails hr | signalStop hr =>
    rintro _ ⟨rfl⟩
    exact (h _ hr :)
  | drawStray | advance => exact h

/-- A loop that is launched waits for nothing yet, and one that is shut down is gone. -/
theorem Alert.act {a : Action} (h : Alert s) (hact : s.act a = some (s', effects)) : Alert s' := by
  cases a with
  | event e => exact h.step (step_transition hact)
  | start host =>
    obtain ⟨-, rfl | ⟨-, pool, rfl⟩ | ⟨-, pool, address, rfl⟩⟩ := act_start_eq_some hact
    · exact h
    · exact h
    · rintro _ ⟨rfl⟩
      exact ⟨Nat.zero_le _, by simp⟩
  | shutdown context =>
    obtain ⟨-, rfl, -⟩ | ⟨r, -, rfl, -⟩ := act_shutdown_eq_some hact
    · exact h
    · intro _ hr
      rw [stopped_running s r context] at hr
      exact nomatch hr

/-! ## Requests to stop -/

/-- Whether the accept loop has been told to stop since the last shutdown. -/
def stopSignalled (actions : List Action) : Bool :=
  actions.foldl (fun signalled a =>
    match a with
    | .event .signalStop => true
    | .shutdown _ => false
    | _ => signalled) false

/-- A loop that has not ended has not seen any request to stop, and there is one if it was told. -/
structure Heeds (signalled : Bool) (s : Server) : Prop where
  idle : s.running = none → signalled = false
  unseen : ∀ r, s.running = some r → r.loop.ending? = none → r.loop.stopWatcher.seen = 0
  requested : ∀ r, s.running = some r → signalled = true → 0 < r.stopRequests

/-- A loop goes on heeding if it has seen no more of the requests than before, or has ended. -/
private theorem Heeds.of_running {signalled : Bool} {r r' : Running} (h : Heeds signalled s)
    (hr : s.running = some r) (hr' : s'.running = some r')
    (hunseen : r'.loop.ending? = none →
      r.loop.ending? = none ∧ r'.loop.stopWatcher = r.loop.stopWatcher)
    (hrequests : r'.stopRequests = r.stopRequests) : Heeds signalled s' where
  idle hnone := by simp [hr'] at hnone
  unseen r₁ hr₁ hending := by
    obtain rfl := Option.some.inj (hr'.symm.trans hr₁)
    obtain ⟨hending, hw⟩ := hunseen hending
    rw [hw]
    exact h.unseen r hr hending
  requested r₁ hr₁ hs := by
    obtain rfl := Option.some.inj (hr'.symm.trans hr₁)
    exact hrequests ▸ h.requested r hr hs

/-- Every step but a request to stop leaves the requests as they are, and those not yet seen unseen
    unless the loop ends. -/
theorem Heeds.step {signalled : Bool} (h : Heeds signalled s) (ht : Transition s e s' effects)
    (he : e ≠ .signalStop) : Heeds signalled s' := by
  cases ht with
  | session hstep =>
    obtain ⟨_, _, _, -, -, rfl, -⟩ := stepSession_eq_some.1 hstep
    exact ⟨h.idle, h.unseen, h.requested⟩
  | signalStop => exact absurd rfl he
  | overflow hr | collide hr | missCandidate hr | stop hr =>
    exact h.of_running hr rfl (by simp [AcceptLoop.ending?]) rfl
  | connect hr | draw hr | drawFails hr =>
    exact h.of_running hr rfl (by simp [AcceptLoop.ending?]) rfl
  | drawStray | advance => exact ⟨h.idle, h.unseen, h.requested⟩
  | subscribe hr hst | permit hr hst | coolDown hr hst | coolOn hr hst | resume hr hst
  | catchUp hr hst | keepCandidate hr hst | spawnCandidate hr hst | openSession hr hst
  | accept hr hst | acceptFails hr hst | liveChanged hr hst | wakeUp hr hst | retry hr hst =>
    exact h.of_running hr rfl (by simp [AcceptLoop.ending?, hst]) rfl

/-- A request to stop is one that the loop has not seen. -/
theorem Heeds.signalled {signalled : Bool} {r : Running} (h : Heeds signalled s)
    (hr : s.running = some r) :
    Heeds true (s.withRunning { r with stopRequests := r.stopRequests + 1 }) where
  idle := nofun
  unseen _ hr' hending := by
    obtain rfl := Option.some.inj hr'
    exact h.unseen r hr hending
  requested _ hr' _ := by
    obtain rfl := Option.some.inj hr'
    exact Nat.succ_pos _

/-- The requests to stop are counted from one launch of the loop to the next shutdown. -/
theorem Heeds.act {a : Action} (h : Heeds (stopSignalled actions) s)
    (hact : s.act a = some (s', effects)) : Heeds (stopSignalled (actions ++ [a])) s' := by
  cases a with
  | event e =>
    have ht := step_transition hact
    by_cases he : e = .signalStop
    · subst he
      have hs : stopSignalled (actions ++ [.event .signalStop]) = true := by simp [stopSignalled]
      rw [hs]
      cases ht with
      | signalStop hr => exact h.signalled hr
    · have hs : stopSignalled (actions ++ [.event e]) = stopSignalled actions := by
        cases e <;> simp_all [stopSignalled]
      exact hs ▸ h.step ht he
  | start host =>
    have hs : stopSignalled (actions ++ [.start host]) = stopSignalled actions := by
      simp [stopSignalled]
    rw [hs]
    obtain ⟨-, rfl | ⟨-, pool, rfl⟩ | ⟨hnone, pool, address, rfl⟩⟩ := act_start_eq_some hact
    · exact h
    · exact ⟨h.idle, h.unseen, h.requested⟩
    · -- a new loop knows of no request, and there can be none while nothing runs
      refine ⟨fun _ => h.idle hnone, ?_, ?_⟩
      · rintro _ ⟨rfl⟩ -
        rfl
      · rintro _ ⟨rfl⟩ hs
        simp [h.idle hnone] at hs
  | shutdown context =>
    have hnone : s'.running = none := by
      obtain ⟨hnone, rfl, -⟩ | ⟨r, -, rfl, -⟩ := act_shutdown_eq_some hact
      · exact hnone
      · exact stopped_running s r context
    exact ⟨fun _ => by simp [stopSignalled], by simp [hnone], by simp [hnone]⟩

/-- A loop that waits and has been told to stop can stop. -/
theorem Heeds.exists_step_stop {signalled : Bool} {r : Running} (h : Heeds signalled s)
    (hr : s.running = some r) (hs : signalled = true) (hparked : r.loop.isParked = true) :
    ∃ after effects r', s.step .stop = some (after, effects) ∧ after.running = some r' ∧
      r'.loop.ending? = some .stopped := by
  -- a loop that waits has not ended, so it has not seen the request
  have hending : r.loop.ending? = none := by
    unfold AcceptLoop.isParked at hparked
    unfold AcceptLoop.ending?
    split at hparked <;> simp_all
  have hmissed : r.loop.stopWatcher.hasMissed r.stopRequests = true := by
    have hpos := h.requested r hr hs
    simp only [Admission.Watcher.hasMissed, h.unseen r hr hending, bne_iff_ne]
    omega
  have hstep : s.step .stop = some (s.endLoop
      { r with loop := { r.loop with stopWatcher := ⟨r.stopRequests⟩ } } .stopped) := by
    simp [Server.step, hr, Server.stop, AcceptLoop.stopRequested?, hparked, hmissed]
  exact ⟨_, _, _, hstep, rfl, rfl⟩

/-! ## Every run of a server -/

/-- The loop is alert after every run. -/
theorem alert_of_run {config : Config} {draws : Nat → ConnectionId} {security : Security}
    (h : (ofConfig config draws security).run actions = some (s, effects)) : Alert s :=
  run_invariant (P := fun _ _ s => Alert s) (by simp [Alert, ofConfig])
    (fun _ _ _ _ _ _ hs hact => hs.act hact) h

/-- The loop heeds requests to stop after every run. -/
theorem heeds_of_run {config : Config} {draws : Nat → ConnectionId} {security : Security}
    (h : (ofConfig config draws security).run actions = some (s, effects)) :
    Heeds (stopSignalled actions) s :=
  run_invariant (P := fun actions _ s => Heeds (stopSignalled actions) s)
    ⟨fun _ => rfl, by simp [ofConfig], by simp [ofConfig]⟩
    (fun _ _ _ _ _ _ hs hact => hs.act hact) h

/-- What can wake a loop that waits. -/
structure Wakeful (actions : List Action) (s : Server) (r : Running) : Prop where
  /-- A loop that waits for a connection, and has seen the present version of the live counter, may
      accept one. -/
  permitted : r.loop.stage = .accepting → r.loop.watcher.hasChanged s.occupancy.live = false →
    s.isListening = true ∧ s.liveCount < s.config.maxConnections
  /-- If the ceiling is reached meanwhile, the loop can notice it and ask admission again. -/
  rechecks : r.loop.stage = .accepting → s.config.maxConnections ≤ s.liveCount →
    ∃ after r', s.step .liveChanged = some (after, []) ∧ after.running = some r' ∧
      r'.loop.stage = .checking
  /-- Once it has been told to stop it can end, whatever it waits for. -/
  stops : stopSignalled actions = true → r.loop.isParked = true →
    ∃ after effects r', s.step .stop = some (after, effects) ∧ after.running = some r' ∧
      r'.loop.ending? = some .stopped

/-- In every run of a server, a loop that waits for a connection and has seen the present version of
    the live counter may accept one: admission listens and the ceiling is not reached.  If the
    ceiling is reached while the loop waits, the loop can notice it and ask admission again.  And
    once the loop has been told to stop it can end in any of its waits. -/
theorem no_lost_wakeUp (config : Config) (draws : Nat → ConnectionId) (security : Security)
    (actions : List Action) (s : Server) (history : List Effect) (r : Running)
    (h : (ofConfig config draws security).run actions = some (s, history))
    (hr : s.running = some r) : Wakeful actions s r := by
  have hlimits : s.controller.limits.maxConnections = s.config.maxConnections := by
    rw [(limits_of_run h).2]
    rfl
  have halert := (alert_of_run h r hr).2
  rw [hlimits] at halert
  constructor
  case permitted =>
    intro hst hseen
    obtain ⟨hp, hlive⟩ := halert (.inr hst)
    refine ⟨by simp [isListening, Admission.Controller.isListening, hp], hlive ?_⟩
    simpa [Admission.Watcher.hasChanged, Admission.Watcher.hasMissed] using hseen
  case rechecks =>
    intro hst hfull
    -- had the loop seen the present version, the ceiling could not be reached
    have hchanged : r.loop.watcher.hasChanged s.occupancy.live = true := by
      have hne := mt (halert (.inr hst)).2 (Nat.not_lt_of_le hfull)
      simpa [Admission.Watcher.hasChanged, Admission.Watcher.hasMissed] using hne
    have hstep : s.step .liveChanged = some (s.withLoop r { r.loop.enter .checking with
        watcher := r.loop.watcher.markSeen s.occupancy.live }, []) := by
      simp [step, hr, AcceptLoop.liveChanged?, hst, hchanged]
    exact ⟨_, _, hstep, rfl, rfl⟩
  case stops => exact (heeds_of_run h).exists_step_stop hr

/-- A client finishes its handshake and takes the only place while the loop waits for the next one,
    and then the loop is told to stop. -/
def lastPlaceTaken : List Action :=
  [.start { bound := .ok { ip := .v4 127 0 0 1, port := 8443 } }, .event (.connect none),
    .event .proceed, .event .proceed, .event .proceed, .event .draw, .event .accept,
    .event .proceed, .event .proceed, .event .proceed, .event (.session 0 .go),
    .event (.session 0 .go), .event (.session 0 (.handshake (.ok ()))), .event .signalStop]

theorem no_lost_wakeUp_lastPlaceTaken :
    ∃ s history r, (ofConfig { Config.default 2 with maxConnections := 1 }
        (fun n => ⟨.ofNat n⟩)).run lastPlaceTaken = some (s, history) ∧ s.running = some r ∧
      r.loop.stage = .accepting ∧ s.config.maxConnections ≤ s.liveCount ∧
      (∃ after r', s.step .liveChanged = some (after, []) ∧ after.running = some r' ∧
        r'.loop.stage = .checking) ∧
      (∃ after effects r', s.step .stop = some (after, effects) ∧ after.running = some r' ∧
        r'.loop.ending? = some .stopped) := by
  have hview : ((ofConfig { Config.default 2 with maxConnections := 1 }
      (fun n => ⟨.ofNat n⟩)).run lastPlaceTaken).map (fun out =>
        (out.1.running.map fun r => r.loop.stage, out.1.config.maxConnections, out.1.liveCount)) =
      some (some .accepting, 1, 1) := by decide
  obtain ⟨⟨s, history⟩, hrun, hview⟩ := Option.map_eq_some_iff.1 hview
  simp only [Prod.mk.injEq] at hview
  obtain ⟨hstage, hmax, hlive⟩ := hview
  obtain ⟨r, hr, hstage⟩ := Option.map_eq_some_iff.1 hstage
  have hfull : s.config.maxConnections ≤ s.liveCount := by omega
  have hwakeful := no_lost_wakeUp _ _ _ _ _ _ _ hrun hr
  exact ⟨s, history, r, hrun, hr, hstage, hfull, hwakeful.rechecks hstage hfull,
    hwakeful.stops (by decide) (by simp [AcceptLoop.isParked, hstage])⟩

end TlsEcho.Server
