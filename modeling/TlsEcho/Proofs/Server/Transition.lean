import TlsEcho.Server.Lifecycle

/-!
# The transitions of a server

`Transition` lists what can happen in a running server, one constructor for each way in which the
accept loop, its timers and drawing tasks, a session, a client or the clock take a step.
`step_transition` says that `step` does nothing else.  `act_start_eq_some` and
`act_shutdown_eq_some` say the same of the calls of the owner.  A shutdown lets the accept loop run
to its end, which is a run of events as well (`exists_run_joinLoop`), so that what every transition
keeps is kept by the end of the loop (`haltLoop_invariant`).

`run_invariant` takes a property of single actions to whole runs.  The property may speak of the
actions and effects so far.
-/

namespace TlsEcho

/-! ## Accept loops in another stage -/

namespace AcceptLoop

/-- A loop that enters a stage is in that stage. -/
@[simp] theorem enter_stage (l : AcceptLoop) (st : LoopStage) : (l.enter st).stage = st := rfl
/-- A loop that enters a stage has seen no more requests to stop. -/
@[simp] theorem enter_stopWatcher (l : AcceptLoop) (st : LoopStage) :
    (l.enter st).stopWatcher = l.stopWatcher := rfl
/-- A loop that enters a stage keeps its candidate. -/
@[simp] theorem enter_candidate (l : AcceptLoop) (st : LoopStage) :
    (l.enter st).candidate = l.candidate := rfl

end AcceptLoop

namespace Server

variable {s s' : Server} {e : Event} {effects : List Effect}

/-! ## Servers that listen -/

/-- A server is listening when its admission is in that phase. -/
theorem isListening_iff : s.isListening = true ↔ s.controller.phase = .listening := by
  simp [isListening, Admission.Controller.isListening]

/-! ## Servers with another loop -/

/-- The running part is the one that was put there. -/
@[simp] theorem withRunning_running (s : Server) (r : Running) :
    (s.withRunning r).running = some r := rfl

/-- A server with another loop keeps the rest of its running part. -/
@[simp] theorem withLoop_running (s : Server) (r : Running) (l : AcceptLoop) :
    (s.withLoop r l).running = some { r with loop := l } := rfl
/-- A server with another loop keeps its admission. -/
@[simp] theorem withLoop_controller (s : Server) (r : Running) (l : AcceptLoop) :
    (s.withLoop r l).controller = s.controller := rfl

/-- A loop that ends has no candidate, and nobody waits for it. -/
@[simp] theorem endLoop_running (s : Server) (r : Running) (how : LoopEnd) :
    (s.endLoop r how).1.running =
      some { r with loop := { r.loop.enter (.ended how) with candidate := none }, backlog := [] } :=
  rfl
/-- The end of the loop leaves admission alone. -/
@[simp] theorem endLoop_controller (s : Server) (r : Running) (how : LoopEnd) :
    (s.endLoop r how).1.controller = s.controller := rfl
/-- The end of the loop refuses whoever waits, the connection that has been accepted first. -/
@[simp] theorem endLoop_effects (s : Server) (r : Running) (how : LoopEnd) :
    (s.endLoop r how).2 =
      (r.loop.admitted?.toList ++ r.backlog).map fun c => Effect.refused c.connection := rfl

/-! ## Transitions -/

/-- What can happen in a server on an event: the server afterwards and the effects. -/
inductive Transition (s : Server) : Event → Server → List Effect → Prop
  | connect {r peer} : s.running = some r → r.loop.ending? = none →
      Transition s (.connect peer)
        { s.withRunning { r with backlog := r.backlog ++ [⟨s.connections, peer⟩] } with
            connections := s.connections + 1 } []
  | subscribe {r} : s.running = some r → r.loop.stage = .starting →
      Transition s .proceed
        (s.withLoop r { r.loop.enter .checking with watcher := .subscribe s.occupancy.live }) []
  /-- Admission lets the loop accept. -/
  | permit {r} : s.running = some r → r.loop.stage = .checking →
      s.controller.phase = .listening → s.liveCount < s.controller.limits.maxConnections →
      Transition s .proceed (s.withLoop r (r.loop.enter .choosing)) []
  /-- The ceiling is reached and a cooldown begins. -/
  | coolDown {r ends} : s.running = some r → r.loop.stage = .checking →
      s.controller.phase = .listening → s.controller.limits.maxConnections ≤ s.liveCount →
      s.clock.add? s.controller.limits.cooldown = some ends →
      Transition s .proceed
        { s.withLoop r (r.loop.enter (.coolingDown (some ends))) with
            controller := { s.controller with phase := .coolingDown ends } }
        ((s.controller.checkLog s.liveCount s.clock).map Effect.log)
  /-- The loop asks during a cooldown. -/
  | coolOn {r ends} : s.running = some r → r.loop.stage = .checking →
      s.controller.phase = .coolingDown ends →
      Transition s .proceed
        (s.withLoop r (r.loop.enter (.coolingDown (s.clock.add? (ends.since s.clock))))) []
  /-- The cooldown would end beyond the last reading of the clock. -/
  | overflow {r} : s.running = some r → r.loop.stage = .checking →
      s.controller.phase = .listening → s.controller.limits.maxConnections ≤ s.liveCount →
      s.clock.add? s.controller.limits.cooldown = none →
      Transition s .proceed (s.endLoop r (.failed (.overflow {}))).1
        (s.endLoop r (.failed (.overflow {}))).2
  | resume {r} : s.running = some r → r.loop.stage = .coolingOver →
      Transition s .proceed
        { s.withLoop r (r.loop.enter .catchingUp) with controller := s.controller.resume }
        (s.controller.resumeLog.map Effect.log)
  | catchUp {r} : s.running = some r → r.loop.stage = .catchingUp →
      Transition s .proceed
        (s.withLoop r
          { r.loop.enter .checking with watcher := r.loop.watcher.markSeen s.occupancy.live }) []
  /-- An id has been drawn ahead already. -/
  | keepCandidate {r candidate} : s.running = some r → r.loop.stage = .choosing →
      r.loop.candidate = some candidate →
      Transition s .proceed (s.withLoop r (r.loop.enter .accepting)) []
  | spawnCandidate {r} : s.running = some r → r.loop.stage = .choosing →
      r.loop.candidate = none →
      Transition s .proceed
        (s.withLoop r { r.loop.enter .accepting with candidate := some .pending })
        [.candidateSpawned]
  /-- The accepted connection gets an id and a session. -/
  | openSession {r c candidate id registry} : s.running = some r →
      r.loop.stage = .admitting c → r.loop.candidate = some (.drawn candidate) →
      s.occupancy.registry.claim candidate = (some id, registry) →
      Transition s .proceed
        { s.withLoop r { r.loop.enter .checking with candidate := none } with
            occupancy := { s.occupancy with registry }
            tasks := s.tasks ++
              [{ connection := c.connection, session := .start s.context id c.peer }] }
        ((s.occupancy.registry.claimLog registry id).map Effect.log ++
          [.sessionStarted c.connection id])
  /-- The collisions of an id could not be counted any more. -/
  | collide {r c candidate registry} : s.running = some r → r.loop.stage = .admitting c →
      r.loop.candidate = some (.drawn candidate) →
      s.occupancy.registry.claim candidate = (none, registry) →
      Transition s .proceed
        ({ s with occupancy := { s.occupancy with registry } }.endLoop r
          (.failed .collisions)).1
        ({ s with occupancy := { s.occupancy with registry } }.endLoop r
          (.failed .collisions)).2
  /-- The task that draws the id has failed. -/
  | missCandidate {r c} : s.running = some r → r.loop.stage = .admitting c →
      r.loop.candidate = some .failed →
      Transition s .proceed (s.endLoop r (.failed .candidate)).1
        (s.endLoop r (.failed .candidate)).2
  | draw {r} : s.running = some r → r.loop.candidate = some .pending →
      Transition s .draw
        { s.withLoop r
            { r.loop with candidate := some (.drawn s.occupancy.registry.candidate.1) } with
            occupancy := { s.occupancy with registry := s.occupancy.registry.candidate.2 } } []
  | drawFails {r} : s.running = some r → r.loop.candidate = some .pending →
      Transition s .drawFails (s.withLoop r { r.loop with candidate := some .failed }) []
  | drawStray : s.strayDraws ≠ 0 →
      Transition s .drawStray
        { s with
            occupancy := { s.occupancy with registry := s.occupancy.registry.candidate.2 }
            strayDraws := s.strayDraws - 1 } []
  | accept {r c backlog} : s.running = some r → r.loop.stage = .accepting →
      r.backlog = c :: backlog →
      Transition s .accept
        (s.withRunning { r with loop := r.loop.enter (.admitting c), backlog })
        [.acceptEnded (some c.connection)]
  | acceptFails {r reason} : s.running = some r → r.loop.stage = .accepting →
      Transition s (.acceptFails reason)
        { s.withLoop r
            { r.loop.enter (.backingOff (s.clock.add? AcceptLoop.backoff)) with
                candidate := none } with
            strayDraws := s.strayDraws + if r.loop.candidate = some .pending then 1 else 0 }
        [.acceptEnded none, .log ⟨.warn, logTarget, "accept failed", [⟨"error", reason⟩]⟩]
  | liveChanged {r} : s.running = some r → r.loop.stage = .accepting →
      r.loop.watcher.hasChanged s.occupancy.live = true →
      Transition s .liveChanged
        (s.withLoop r
          { r.loop.enter .checking with watcher := r.loop.watcher.markSeen s.occupancy.live }) []
  | signalStop {r} : s.running = some r →
      Transition s .signalStop (s.withRunning { r with stopRequests := r.stopRequests + 1 }) []
  | stop {r} : s.running = some r → r.loop.isParked = true →
      r.loop.stopWatcher.hasMissed r.stopRequests = true →
      Transition s .stop
        (s.endLoop { r with loop := { r.loop with stopWatcher := ⟨r.stopRequests⟩ } } .stopped).1
        (s.endLoop { r with loop := { r.loop with stopWatcher := ⟨r.stopRequests⟩ } } .stopped).2
  | wakeUp {r wakes} : s.running = some r → r.loop.stage = .coolingDown wakes →
      AcceptLoop.isOver wakes s.clock = true →
      Transition s .wake (s.withLoop r (r.loop.enter .coolingOver)) []
  | retry {r wakes} : s.running = some r → r.loop.stage = .backingOff wakes →
      AcceptLoop.isOver wakes s.clock = true →
      Transition s .wake (s.withLoop r (r.loop.enter .checking)) []
  | session {connection signal after effects} :
      s.stepSession connection signal = some (after, effects) →
      Transition s (.session connection signal) after effects
  | advance {d clock} : s.clock.add? d = some clock →
      Transition s (.advance d) { s with clock } []

/-! ## Every step is a transition -/

/-- Asking admission is one of the four transitions of a check. -/
private theorem checkAdmission_transition {r : Running} (hr : s.running = some r)
    (hst : r.loop.stage = .checking) (h : s.checkAdmission r = (s', effects)) :
    Transition s .proceed s' effects := by
  cases hp : s.controller.phase with
  | coolingDown ends =>
    -- only the check that enters the cooldown is reported
    have hlog : s.controller.checkLog s.liveCount s.clock = [] := by
      simp [Admission.Controller.checkLog, Admission.Controller.isListening, hp]
    simp only [checkAdmission, Admission.Controller.check, hp, hlog] at h
    obtain ⟨rfl, rfl⟩ := h
    exact .coolOn hr hst hp
  | listening =>
    by_cases hlive : s.liveCount < s.controller.limits.maxConnections
    · have hlog : s.controller.checkLog s.liveCount s.clock = [] := by
        simp [Admission.Controller.checkLog, Admission.Controller.check, hp, hlive]
      simp only [checkAdmission, Admission.Controller.check, hp, hlive, hlog, if_true] at h
      obtain ⟨rfl, rfl⟩ := h
      exact .permit hr hst hp hlive
    · cases hends : s.clock.add? s.controller.limits.cooldown with
      | none =>
        simp only [checkAdmission, Admission.Controller.check, hp, hlive, hends, if_false] at h
        obtain ⟨rfl, rfl⟩ := h
        exact .overflow hr hst hp (Nat.le_of_not_lt hlive) hends
      | some ends =>
        simp only [checkAdmission, Admission.Controller.check, hp, hlive, hends, if_false] at h
        obtain ⟨rfl, rfl⟩ := h
        exact .coolDown hr hst hp (Nat.le_of_not_lt hlive) hends

/-- An accepted connection gets its session, unless the collisions cannot be counted. -/
private theorem openSession_transition {r : Running} {c : Incoming} {candidate : ConnectionId}
    (hr : s.running = some r) (hst : r.loop.stage = .admitting c)
    (hc : r.loop.candidate = some (.drawn candidate))
    (h : s.openSession r c candidate = (s', effects)) : Transition s .proceed s' effects := by
  cases hclaim : s.occupancy.registry.claim candidate with
  | mk id? registry =>
    simp only [openSession, hclaim] at h
    cases id? <;> obtain ⟨rfl, rfl⟩ := h
    · exact .collide hr hst hc hclaim
    · exact .openSession hr hst hc hclaim

/-- Going on is a transition of the stage that the loop is in. -/
private theorem proceed_transition {r : Running} (hr : s.running = some r)
    (h : s.proceed r = some (s', effects)) : Transition s .proceed s' effects := by
  unfold proceed at h
  cases hst : r.loop.stage with
  | starting =>
    simp only [hst] at h
    obtain ⟨rfl, rfl⟩ := h
    exact .subscribe hr hst
  | checking =>
    simp only [hst, Option.some.injEq] at h
    exact checkAdmission_transition hr hst h
  | coolingOver =>
    simp only [hst] at h
    obtain ⟨rfl, rfl⟩ := h
    exact .resume hr hst
  | catchingUp =>
    simp only [hst] at h
    obtain ⟨rfl, rfl⟩ := h
    exact .catchUp hr hst
  | choosing =>
    simp only [hst, chooseCandidate] at h
    split at h <;> rename_i hc <;> obtain ⟨rfl, rfl⟩ := h
    · exact .keepCandidate hr hst hc
    · exact .spawnCandidate hr hst hc
  | admitting c =>
    simp only [hst] at h
    split at h
    · exact openSession_transition hr hst ‹_› (Option.some.inj h)
    · obtain ⟨rfl, rfl⟩ := h
      exact .missCandidate hr hst ‹_›
    · exact nomatch h
  | coolingDown | accepting | backingOff | ended =>
    -- here the loop waits for something else, or has ended
    simp [hst] at h

/-- A drawing task that ends has drawn an id or failed. -/
private theorem drawEnds_transition {r : Running} {fails : Bool} (hr : s.running = some r)
    (h : s.drawEnds r fails = some (s', effects)) :
    Transition s (if fails then .drawFails else .draw) s' effects := by
  simp only [drawEnds] at h
  split at h
  · rename_i hc
    cases fails <;> obtain ⟨rfl, rfl⟩ := h
    · exact .draw hr hc
    · exact .drawFails hr hc
  · exact nomatch h

/-- A connection is taken only where an accept is outstanding. -/
private theorem accept_transition {r : Running} (hr : s.running = some r)
    (h : s.accept r = some (s', effects)) : Transition s .accept s' effects := by
  simp only [Server.accept] at h
  split at h
  · obtain ⟨rfl, rfl⟩ := h
    exact .accept hr ‹_› ‹_›
  · exact nomatch h

/-- Only an outstanding accept fails. -/
private theorem acceptFails_transition {r : Running} {reason : String} (hr : s.running = some r)
    (h : s.acceptFails r reason = some (s', effects)) :
    Transition s (.acceptFails reason) s' effects := by
  simp only [Server.acceptFails] at h
  split at h
  · obtain ⟨rfl, rfl⟩ := h
    exact .acceptFails hr ‹_›
  · exact nomatch h

/-- The loop notices that the live counter moved only where an accept is outstanding. -/
private theorem liveChanged_transition {r : Running} {loop : AcceptLoop}
    (hr : s.running = some r) (h : r.loop.liveChanged? s.occupancy.live = some loop) :
    Transition s .liveChanged (s.withLoop r loop) [] := by
  simp only [AcceptLoop.liveChanged?] at h
  split at h
  · split at h
    · obtain rfl := Option.some.inj h
      exact .liveChanged hr ‹_› ‹_›
    · exact nomatch h
  · exact nomatch h

/-- The loop notices a request to stop only where it waits, and only a request it has not seen. -/
private theorem stop_transition {r : Running} (hr : s.running = some r)
    (h : s.stop r = some (s', effects)) : Transition s .stop s' effects := by
  simp only [Server.stop, AcceptLoop.stopRequested?] at h
  split at h
  · rename_i hstop
    obtain ⟨hparked, hmissed⟩ := Bool.and_eq_true_iff.1 hstop
    obtain ⟨rfl, rfl⟩ := h
    exact .stop hr hparked hmissed
  · exact nomatch h

/-- The waits that time ends are that of a cooldown and that after a failed accept. -/
private theorem wake_transition {r : Running} {loop : AcceptLoop} (hr : s.running = some r)
    (h : r.loop.wake? s.clock = some loop) : Transition s .wake (s.withLoop r loop) [] := by
  simp only [AcceptLoop.wake?] at h
  split at h
  · split at h
    · obtain rfl := Option.some.inj h
      exact .wakeUp hr ‹_› ‹_›
    · exact nomatch h
  · split at h
    · obtain rfl := Option.some.inj h
      exact .retry hr ‹_› ‹_›
    · exact nomatch h
  · exact nomatch h

/-- A client reaches the listener unless the loop has ended. -/
private theorem connect_transition {r : Running} {peer : Option Address}
    (hr : s.running = some r) (h : s.connect r peer = some (s', effects)) :
    Transition s (.connect peer) s' effects := by
  simp only [Server.connect] at h
  split at h
  · exact nomatch h
  · rename_i hending
    obtain ⟨rfl, rfl⟩ := h
    exact .connect hr (by simpa using hending)

/-- A step is one of the transitions. -/
theorem step_transition (h : s.step e = some (s', effects)) : Transition s e s' effects := by
  cases e with
  | connect peer =>
    obtain ⟨r, hr, h⟩ := Option.bind_eq_some_iff.1 h
    exact connect_transition hr h
  | proceed =>
    obtain ⟨r, hr, h⟩ := Option.bind_eq_some_iff.1 h
    exact proceed_transition hr h
  | draw | drawFails =>
    obtain ⟨r, hr, h⟩ := Option.bind_eq_some_iff.1 h
    exact drawEnds_transition hr h
  | drawStray =>
    simp only [step] at h
    split at h
    · exact nomatch h
    · obtain ⟨rfl, rfl⟩ := h
      exact .drawStray ‹_›
  | accept =>
    obtain ⟨r, hr, h⟩ := Option.bind_eq_some_iff.1 h
    exact accept_transition hr h
  | acceptFails reason =>
    obtain ⟨r, hr, h⟩ := Option.bind_eq_some_iff.1 h
    exact acceptFails_transition hr h
  | liveChanged =>
    obtain ⟨r, hr, h⟩ := Option.bind_eq_some_iff.1 h
    obtain ⟨loop, hloop, ⟨rfl, rfl⟩⟩ := Option.map_eq_some_iff.1 h
    exact liveChanged_transition hr hloop
  | signalStop =>
    obtain ⟨r, hr, ⟨rfl, rfl⟩⟩ := Option.map_eq_some_iff.1 h
    exact .signalStop hr
  | stop =>
    obtain ⟨r, hr, h⟩ := Option.bind_eq_some_iff.1 h
    exact stop_transition hr h
  | wake =>
    obtain ⟨r, hr, h⟩ := Option.bind_eq_some_iff.1 h
    obtain ⟨loop, hloop, ⟨rfl, rfl⟩⟩ := Option.map_eq_some_iff.1 h
    exact wake_transition hr hloop
  | session connection signal => exact .session h
  | advance d =>
    obtain ⟨clock, hclock, ⟨rfl, rfl⟩⟩ := Option.map_eq_some_iff.1 h
    exact .advance hclock

/-- What a signal to a session comes to: the session takes its step, and its effects are applied to
    the registry and the counter. -/
theorem stepSession_eq_some {connection : Nat} {signal : Session.Signal} :
    s.stepSession connection signal = some (s', effects) ↔
      ∃ task session emitted, s.tasks.find? (fun t => t.connection = connection) = some task ∧
        task.session.step s.context signal = some (session, emitted) ∧
        s' = { s with
          occupancy := (s.occupancy.applyAll session.id emitted).occupancy
          tasks := replaceSession s.tasks connection session } ∧
        effects = (s.occupancy.applyAll session.id emitted).log.map Effect.log ++
          emitted.map (Effect.session connection) := by
  simp only [stepSession, Option.bind_eq_bind, Option.bind_eq_some_iff, Option.pure_def,
    Option.some.injEq, Prod.mk.injEq]
  constructor
  · rintro ⟨task, htask, ⟨session, emitted⟩, hstep, rfl, rfl⟩
    exact ⟨task, session, emitted, htask, hstep, rfl, rfl⟩
  · rintro ⟨task, session, emitted, htask, hstep, rfl, rfl⟩
    exact ⟨task, htask, (session, emitted), hstep, rfl, rfl⟩

/-! ## The calls of the owner -/

/-- What the three outcomes of a start leave. -/
private theorem start_cases (s : Server) (host : Host) :
    (s.start host).2.1 = s ∨
    (s.running = none ∧ ∃ pool, (s.start host).2.1 = { s with pool }) ∨
    (s.running = none ∧ ∃ pool address, (s.start host).2.1 = s.launched pool address) := by
  unfold start
  -- the server runs already, or one of credentials, workers and listener fails, or none does
  split
  · exact .inl rfl
  · have hr : s.running = none := by simpa [isRunning] using ‹¬s.isRunning = true›
    split
    · exact .inl rfl
    · split
      · exact .inl rfl
      · split
        · exact .inr (.inl ⟨hr, _, rfl⟩)
        · exact .inr (.inr ⟨hr, _, _, rfl⟩)

/-- A start changes nothing or the pool alone, unless it launches an accept loop.  It launches none
    while one runs. -/
theorem act_start_eq_some {host : Host} (h : s.act (.start host) = some (s', effects)) :
    effects = (s.start host).2.2.map Effect.log ∧
    (s' = s ∨ (s.running = none ∧ ∃ pool, s' = { s with pool }) ∨
      (s.running = none ∧ ∃ pool address, s' = s.launched pool address)) := by
  obtain ⟨hs', heffects⟩ : (s.start host).2.1 = s' ∧
      (s.start host).2.2.map Effect.log = effects := Prod.mk.inj (Option.some.inj h)
  exact ⟨heffects.symm, hs' ▸ start_cases s host⟩

/-- A shutdown stops the loop and the workers of a server that runs, and does nothing to another
    one. -/
theorem act_shutdown_eq_some {context : CallContext}
    (h : s.act (.shutdown context) = some (s', effects)) :
    (s.running = none ∧ s' = s ∧ effects = []) ∨
    ∃ r, s.running = some r ∧ s' = (s.stopped r context).1 ∧
      effects = (s.stopped r context).2 ++ (s.shutdown context).2.2.map Effect.log := by
  cases hr : s.running with
  | none =>
    simp only [act, shutdown, hr] at h
    obtain ⟨rfl, rfl⟩ := h
    exact .inl ⟨rfl, rfl, rfl⟩
  | some r =>
    simp only [act, shutdown, hr, Option.some.injEq, Prod.mk.injEq] at h
    obtain ⟨rfl, rfl⟩ := h
    exact .inr ⟨r, rfl, rfl, by simp [shutdown, hr]⟩

/-- Giving up sessions changes nothing but the sessions, the registry and the counter. -/
theorem exists_abandon_eq (s : Server) (connections : List Nat) :
    ∃ occupancy tasks, (s.abandon connections).1 = { s with occupancy, tasks } := by
  induction connections generalizing s with
  | nil => exact ⟨_, _, rfl⟩
  | cons c rest ih =>
    unfold abandon
    split
    · exact ih s
    · rename_i hstep
      obtain ⟨_, _, _, -, -, rfl, -⟩ := stepSession_eq_some.1 hstep
      exact ih _

/-- Giving up sessions one after the other is a run of their own events, so that a shutdown passes
    through no states but those that such a run reaches. -/
theorem exists_run_abandon (s : Server) (connections : List Nat) :
    ∃ actions, (∀ a ∈ actions, ∃ c, a = .event (.session c .abandon)) ∧
      s.run actions = some (s.abandon connections) := by
  induction connections generalizing s with
  | nil => exact ⟨[], by simp, rfl⟩
  | cons c rest ih =>
    unfold abandon
    split
    · exact ih s
    · rename_i after effects hstep
      obtain ⟨actions, hall, hrun⟩ := ih after
      refine ⟨.event (.session c .abandon) :: actions, ?_, ?_⟩
      · simpa using hall
      · simp only [run, act, step, hstep, hrun]
        rfl

/-- Stopping the workers stops the pool and leaves the rest of the server but its sessions alone. -/
theorem stopWorkers_frame (s : Server) (context : CallContext) :
    (s.stopWorkers context).1.running = s.running ∧
      (s.stopWorkers context).1.config = s.config ∧
      (s.stopWorkers context).1.controller = s.controller ∧
      (s.stopWorkers context).1.pool = s.pool.stop := by
  cases context with
  | plain =>
    obtain ⟨occupancy, tasks, h⟩ := exists_abandon_eq s s.ownConnections
    simp [stopWorkers, h]
  | task => exact ⟨rfl, rfl, rfl, rfl⟩

/-- The workers are stopped after the accept loop has ended. -/
theorem stopped_eq (s : Server) (r : Running) (context : CallContext) :
    s.stopped r context =
      (({ (s.haltLoop r context).1 with running := none }.stopWorkers context).1,
        (s.haltLoop r context).2 ++
          ({ (s.haltLoop r context).1 with running := none }.stopWorkers context).2) := rfl

/-- A server that has been stopped has no accept loop. -/
theorem stopped_running (s : Server) (r : Running) (context : CallContext) :
    (s.stopped r context).1.running = none := by
  rw [stopped_eq]
  exact (stopWorkers_frame _ context).1

/-! ## Runs -/

/-- A run of at least one action is an action followed by a run. -/
theorem run_cons_eq_some {a : Action} {rest : List Action} :
    s.run (a :: rest) = some (s', effects) ↔
      ∃ s₁ first later, s.act a = some (s₁, first) ∧ s₁.run rest = some (s', later) ∧
        effects = first ++ later := by
  cases hact : s.act a with
  | none => simp [run, hact]
  | some out =>
    obtain ⟨s₁, first⟩ := out
    simp only [run, hact, Option.map_eq_some_iff, Option.some.injEq, Prod.mk.injEq]
    constructor
    · rintro ⟨⟨s₂, later⟩, hrest, rfl, rfl⟩
      exact ⟨s₁, first, later, ⟨rfl, rfl⟩, hrest, rfl⟩
    · rintro ⟨_, _, later, ⟨rfl, rfl⟩, hrest, rfl⟩
      exact ⟨(s', later), hrest, rfl, rfl⟩

/-- Two runs of which the second one begins where the first one ends are one run. -/
theorem run_append {s₁ : Server} {first later : List Action} {before after : List Effect}
    (hfirst : s.run first = some (s₁, before)) (hlater : s₁.run later = some (s', after)) :
    s.run (first ++ later) = some (s', before ++ after) := by
  induction first generalizing s before with
  | nil =>
    obtain ⟨rfl, rfl⟩ := hfirst
    exact hlater
  | cons a rest ih =>
    obtain ⟨s₂, one, more, hact, hrest, rfl⟩ := run_cons_eq_some.1 hfirst
    exact run_cons_eq_some.2 ⟨s₂, one, more ++ after, hact, ih hrest, List.append_assoc ..⟩

/-- A run goes on by one action. -/
theorem run_append_singleton {s₁ : Server} {actions : List Action} {a : Action}
    {before more : List Effect} (h : s.run actions = some (s₁, before))
    (hact : s₁.act a = some (s', more)) : s.run (actions ++ [a]) = some (s', before ++ more) :=
  run_append h (run_cons_eq_some.2 ⟨s', more, [], hact, rfl, (List.append_nil _).symm⟩)

private theorem run_invariant_from {P : List Action → List Effect → Server → Prop}
    (hact : ∀ actions history s a s' more, P actions history s → s.act a = some (s', more) →
      P (actions ++ [a]) (history ++ more) s')
    (before : List Action) (done : List Effect) (actions : List Action) (hs : P before done s)
    (h : s.run actions = some (s', effects)) : P (before ++ actions) (done ++ effects) s' := by
  -- what has happened before the run is carried along, so that the invariant may speak of it
  induction actions generalizing s before done effects with
  | nil =>
    obtain ⟨rfl, rfl⟩ := h
    simpa using hs
  | cons a rest ih =>
    obtain ⟨s₁, first, later, h₁, hrest, rfl⟩ := run_cons_eq_some.1 h
    simpa using ih _ _ (hact _ _ _ _ _ _ hs h₁) hrest

/-- What holds at the start and is kept by every action holds after every run. -/
theorem run_invariant {P : List Action → List Effect → Server → Prop} {actions : List Action}
    (hstart : P [] [] s)
    (hact : ∀ actions history s a s' more, P actions history s → s.act a = some (s', more) →
      P (actions ++ [a]) (history ++ more) s')
    (h : s.run actions = some (s', effects)) : P actions effects s' := by
  simpa using run_invariant_from hact [] [] actions hstart h

/-! ## The end of the accept loop -/

/-- Whether an event is a request to stop, or what the accept loop does on its way to its end. -/
def Event.isOwn : Event → Bool
  | .signalStop | .draw | .proceed | .stop => true
  | _ => false

/-- What a loop that is told to stop does next is one of its own events. -/
theorem isOwn_of_ownEvent? {l : AcceptLoop} (h : ownEvent? l = some e) : e.isOwn = true := by
  unfold ownEvent? at h
  split at h
  case h_1 => exact nomatch h
  case h_5 =>
    -- the id that the loop waits for comes first
    split at h <;> obtain rfl := Option.some.inj h <;> rfl
  all_goals
    obtain rfl := Option.some.inj h
    rfl

/-- The first of the steps that a loop takes is its next one, if it can take it. -/
private theorem runLoop_succ (s : Server) (n : Nat) :
    s.runLoop (n + 1) = (s, []) ∨
    ∃ e s₁ effects, e.isOwn = true ∧ s.step e = some (s₁, effects) ∧
      s.runLoop (n + 1) = ((s₁.runLoop n).1, effects ++ (s₁.runLoop n).2) := by
  cases hnext : s.running.bind fun r => (ownEvent? r.loop).bind s.step with
  | none => exact .inl (by simp only [runLoop, hnext])
  | some out =>
    obtain ⟨r, -, hstep⟩ := Option.bind_eq_some_iff.1 hnext
    obtain ⟨e, hown, hstep⟩ := Option.bind_eq_some_iff.1 hstep
    exact .inr ⟨e, out.1, out.2, isOwn_of_ownEvent? hown, hstep, by simp only [runLoop, hnext]⟩

/-- What every step of the accept loop keeps is kept by any number of them. -/
private theorem runLoop_invariant {P : List Effect → Server → Prop}
    (hstep : ∀ history s e s' more, e.isOwn = true → P history s →
      s.step e = some (s', more) → P (history ++ more) s')
    (history : List Effect) (h : P history s) (n : Nat) :
    P (history ++ (s.runLoop n).2) (s.runLoop n).1 := by
  induction n generalizing s history with
  | zero => simpa [runLoop] using h
  | succ n ih =>
    obtain heq | ⟨e, s₁, effects, hown, hs₁, heq⟩ := runLoop_succ s n
    · simpa [heq] using h
    · have hnext := ih _ (hstep _ _ _ _ _ hown h hs₁)
      rw [heq, ← List.append_assoc]
      exact hnext

/-- Waiting for the end of the accept loop is a run: the loop is told to stop, and takes its own
    steps. -/
theorem exists_run_joinLoop {r : Running} (hr : s.running = some r) :
    ∃ own : List Event, (∀ e ∈ own, e.isOwn = true) ∧
      s.run ((Event.signalStop :: own).map Action.event) = some (s.joinLoop r) := by
  have htold : s.act (.event .signalStop) =
      some (s.withRunning { r with stopRequests := r.stopRequests + 1 }, []) := by
    simp [act, step, hr]
  refine runLoop_invariant (P := fun history s' => ∃ own : List Event,
    (∀ e ∈ own, e.isOwn = true) ∧
      s.run ((Event.signalStop :: own).map Action.event) = some (s', history)) ?_ [] ?_ _
  · rintro history s₁ e s' more he ⟨own, hown, hrun⟩ hstep
    have hnext := run_append_singleton (a := .event e) hrun hstep
    refine ⟨own ++ [e], ?_, by simpa using hnext⟩
    intro e' he'
    obtain he' | he' := List.mem_append.1 he'
    · exact hown e' he'
    · exact List.mem_singleton.1 he' ▸ he
  · exact ⟨[], by simp, run_cons_eq_some.2 ⟨_, _, _, htold, rfl, rfl⟩⟩

/-- What the accept loop's own events and its abortion keep is kept when a shutdown ends the
    loop. -/
theorem haltLoop_invariant {P : List Effect → Server → Prop}
    (hstep : ∀ history s e s' more, e.isOwn = true → P history s → Transition s e s' more →
      P (history ++ more) s')
    (habort : ∀ history s r, s.running = some r → P history s →
      P (history ++ (s.endLoop r .stopped).2) (s.endLoop r .stopped).1)
    {r : Running} (hr : s.running = some r) (history : List Effect) (h : P history s)
    (context : CallContext) :
    P (history ++ (s.haltLoop r context).2) (s.haltLoop r context).1 := by
  cases context with
  | plain =>
    have htold := hstep _ _ _ _ _ rfl h (.signalStop hr)
    rw [List.append_nil] at htold
    exact runLoop_invariant
      (fun _ _ _ _ _ he h hs => hstep _ _ _ _ _ he h (step_transition hs)) _ htold _
  | task =>
    show P (history ++ (s.abortLoop r).2) (s.abortLoop r).1
    unfold abortLoop
    split
    · rwa [List.append_nil]
    · exact habort _ _ _ hr h

/-! ## The limits of admission -/

/-- No event changes the configuration or the limits of admission. -/
theorem limits_step (ht : Transition s e s' effects) :
    s'.config = s.config ∧ s'.controller.limits = s.controller.limits := by
  cases ht with
  | session hstep =>
    obtain ⟨_, _, _, -, -, rfl, -⟩ := stepSession_eq_some.1 hstep
    exact ⟨rfl, rfl⟩
  | _ => exact ⟨rfl, rfl⟩

/-- The end of the accept loop leaves the configuration and the limits of admission alone. -/
theorem haltLoop_limits {r : Running} (hr : s.running = some r) (context : CallContext) :
    (s.haltLoop r context).1.config = s.config ∧
      (s.haltLoop r context).1.controller.limits = s.controller.limits :=
  haltLoop_invariant
    (P := fun _ s' => s'.config = s.config ∧ s'.controller.limits = s.controller.limits)
    (fun _ _ _ _ _ _ h ht =>
      ⟨(limits_step ht).1.trans h.1, (limits_step ht).2.trans h.2⟩)
    (fun _ _ _ _ h => h) hr [] ⟨rfl, rfl⟩ context

/-- So does a shutdown. -/
theorem stopped_limits {r : Running} (hr : s.running = some r) (context : CallContext) :
    (s.stopped r context).1.config = s.config ∧
      (s.stopped r context).1.controller.limits = s.controller.limits := by
  have hhalt := haltLoop_limits hr context
  have hworkers := stopWorkers_frame { (s.haltLoop r context).1 with running := none } context
  rw [stopped_eq, hworkers.2.1, hworkers.2.2.1]
  exact hhalt

/-- The limits of a validated configuration are valid, and making them valid changes nothing. -/
private theorem limits_validated (c : Config) :
    c.validated.limits.validated = c.validated.limits := by
  have hmax : max (max c.maxConnections 1) 1 = max c.maxConnections 1 :=
    Nat.max_eq_left (Nat.le_max_right _ _)
  show Admission.Limits.mk (max (max c.maxConnections 1) 1) c.cooldown = _
  rw [hmax]
  rfl

/-- Admission works under the limits of the configuration, which is a validated one. -/
theorem limits_of_run {config : Config} {draws : Nat → ConnectionId} {security : Security}
    {actions : List Action}
    (h : (ofConfig config draws security).run actions = some (s, effects)) :
    s.config = config.validated ∧ s.controller.limits = s.config.limits := by
  refine run_invariant (P := fun _ _ s => s.config = config.validated ∧
    s.controller.limits = s.config.limits) ⟨rfl, limits_validated config⟩ ?_ h
  intro _ _ s a s' _ hs hact
  cases a with
  | event e =>
    obtain ⟨hconfig, hlimits⟩ := limits_step (step_transition hact)
    rwa [hconfig, hlimits]
  | start host =>
    obtain ⟨-, rfl | ⟨-, pool, rfl⟩ | ⟨-, pool, address, rfl⟩⟩ := act_start_eq_some hact <;>
      exact hs
  | shutdown context =>
    obtain ⟨-, rfl, -⟩ | ⟨r, hr, rfl, -⟩ := act_shutdown_eq_some hact
    · exact hs
    · obtain ⟨hconfig, hlimits⟩ := stopped_limits hr context
      rwa [hconfig, hlimits]

end Server

end TlsEcho
