import TlsEcho.Proofs.Server.Cooldown
import TlsEcho.Proofs.Server.Join

/-!
# Starts and shutdowns

A server keeps what it runs in three places: the running part, the pool of workers and admission.
`Steady` says that the first two agree and that the pool of a stopped server is as new.  Every
action keeps it, so that a start that fails has nothing to leave behind: it stops the pool that it
has started, and the server is the one from before (`start_of_stopped`).

A shutdown answers for the end of the accept loop (`shutdown_answer`).  The end is the one that the
loop has come to by itself, or the one that it comes to when an ordinary thread tells it to stop and
waits (`exists_joins`).
-/

namespace TlsEcho

/-- Whether nothing on a host is in the way when a server is started. -/
structure Host.Suits (host : Host) (s : Server) : Prop where
  transport : ∃ log, s.loadTransport host.files = .ok log
  workers : host.noWorkers = none
  bound : ∃ address, host.bound = .ok address
  address : host.noAddress = none

namespace Server

variable {s s' : Server} {e : Event} {a : Action} {effects : List Effect} {host : Host}

/-! ## Running servers and their pools -/

/-- The workers run exactly if the server does, and otherwise the pool is as new. -/
structure Steady (s : Server) : Prop where
  pool : s.pool.isRunning = s.isRunning
  unfinished : s.pool.unfinished = 0

/-- An event neither starts nor stops anything. -/
theorem isRunning_step (ht : Transition s e s' effects) :
    s'.isRunning = s.isRunning ∧ s'.pool = s.pool := by
  cases ht with
  | session hstep =>
    obtain ⟨_, _, _, -, -, rfl, -⟩ := stepSession_eq_some.1 hstep
    exact ⟨rfl, rfl⟩
  | drawStray | advance => exact ⟨rfl, rfl⟩
  | connect hr | subscribe hr | permit hr | coolDown hr | coolOn hr | overflow hr | resume hr
  | catchUp hr | keepCandidate hr | spawnCandidate hr | openSession hr | collide hr
  | missCandidate hr | draw hr | drawFails hr | accept hr | acceptFails hr | liveChanged hr
  | signalStop hr | stop hr | wakeUp hr | retry hr =>
    exact ⟨by simp [isRunning, hr, withRunning, withLoop, endLoop], rfl⟩

/-- Stopping a server stops its pool. -/
theorem stopped_pool {r : Running} (hr : s.running = some r) (context : CallContext) :
    (s.stopped r context).1.pool = s.pool.stop := by
  have hhalt := haltLoop_invariant (P := fun _ s' => s'.pool = s.pool)
    (fun _ _ _ _ _ _ h ht => (isRunning_step ht).2.trans h) (fun _ _ _ _ h => h) hr [] rfl context
  have hworkers := stopWorkers_frame { (s.haltLoop r context).1 with running := none } context
  rw [stopped_eq, hworkers.2.2.2]
  exact congrArg WorkerPool.stop hhalt

/-! ## Starts -/

/-- Workers that do not run yet are started unless the system refuses. -/
private theorem pool_start_eq_ok_iff {p p' : WorkerPool} {refusal : Option String}
    (hp : p.isRunning = false) :
    p.start refusal = .ok p' ↔ refusal = none ∧ p' = { p with isRunning := true } := by
  cases refusal <;> simp [WorkerPool.start, hp, eq_comm]

/-- The listener is bound to the address that the host gives, if that can be told. -/
private theorem bindListener_eq_ok_iff {address : Address} :
    s.bindListener host = .ok address ↔ host.bound = .ok address ∧ host.noAddress = none := by
  unfold bindListener
  split <;> simp_all

/-- A server that runs is not started again. -/
theorem start_of_running (host : Host) (hs : s.isRunning = true) :
    (s.start host).1 = .ok () ∧ (s.start host).2.1 = s := by
  simp [start, hs]

/-- A stopped server starts unless something is in the way, and then it is left as it was. -/
theorem start_of_stopped (host : Host) (h : Steady s) (hs : s.isRunning = false) :
    (∃ address log, host.Suits s ∧ host.bound = .ok address ∧
      s.start host = (.ok (), s.launched { s.pool with isRunning := true } address, log)) ∨
    (∃ failure log, ¬ host.Suits s ∧ s.start host = (.error failure, s, log)) := by
  have hidle : s.pool.isRunning = false := h.pool.trans hs
  cases hload : s.loadTransport host.files with
  | error failure =>
    refine .inr ⟨.transport failure, [], fun hsuits => ?_, by simp [start, hs, hload]⟩
    obtain ⟨log, hok⟩ := hsuits.transport
    exact nomatch hload.symm.trans hok
  | ok loading =>
    cases hpool : s.pool.start host.noWorkers with
    | error failure =>
      refine .inr ⟨failure, loading, fun hsuits => ?_, by simp [start, hs, hload, hpool]⟩
      have hok := (pool_start_eq_ok_iff hidle).2 ⟨hsuits.workers, rfl⟩
      exact nomatch hpool.symm.trans hok
    | ok pool =>
      obtain ⟨hworkers, rfl⟩ := (pool_start_eq_ok_iff hidle).1 hpool
      cases hbind : s.bindListener host with
      | error failure =>
        -- the pool is stopped again, and is as it was before it was started
        have hstop : ({ s.pool with isRunning := true } : WorkerPool).stop = s.pool := by
          simp [WorkerPool.stop, ← hidle, ← h.unfinished]
        refine .inr ⟨failure, _, fun hsuits => ?_, by
          simp only [start, hs, hload, hpool, hbind, hstop]; rfl⟩
        obtain ⟨address, hbound⟩ := hsuits.bound
        have hok := (bindListener_eq_ok_iff (s := s)).2 ⟨hbound, hsuits.address⟩
        exact nomatch hbind.symm.trans hok
      | ok address =>
        obtain ⟨hbound, haddress⟩ := bindListener_eq_ok_iff.1 hbind
        exact .inl ⟨address, _, ⟨⟨loading, hload⟩, hworkers, ⟨address, hbound⟩, haddress⟩, hbound,
          by simp only [start, hs, hload, hpool, hbind]; rfl⟩

/-! ## Every action -/

/-- Every action keeps a server steady. -/
theorem Steady.act (h : Steady s) (hact : s.act a = some (s', effects)) : Steady s' := by
  cases a with
  | event e =>
    obtain ⟨hruns, hpool⟩ := isRunning_step (step_transition hact)
    exact ⟨by rw [hpool, hruns, h.pool], by rw [hpool, h.unfinished]⟩
  | start host =>
    obtain rfl : (s.start host).2.1 = s' := (Prod.mk.inj (Option.some.inj hact)).1
    cases hs : s.isRunning with
    | true => rwa [(start_of_running host hs).2]
    | false =>
      obtain ⟨address, log, -, -, hstart⟩ | ⟨failure, log, -, hstart⟩ := start_of_stopped host h hs
      · rw [hstart]
        exact ⟨rfl, h.unfinished⟩
      · rwa [hstart]
  | shutdown context =>
    obtain ⟨-, rfl, -⟩ | ⟨r, hr, rfl, -⟩ := act_shutdown_eq_some hact
    · exact h
    · have hnone := stopped_running s r context
      exact ⟨by simp [stopped_pool hr, WorkerPool.stop, isRunning, hnone],
        by simp [stopped_pool hr, WorkerPool.stop]⟩

/-- A server is steady after every run. -/
theorem steady_of_run {config : Config} {draws : Nat → ConnectionId} {security : Security}
    {actions : List Action}
    (h : (ofConfig config draws security).run actions = some (s, effects)) : Steady s :=
  run_invariant (P := fun _ _ s => Steady s) ⟨rfl, rfl⟩
    (fun _ _ _ _ _ _ hs hact => hs.act hact) h

/-! ## What a shutdown answers -/

/-- The answer of a shutdown is about the end of the accept loop. -/
theorem shutdown_answer {r : Running} {context : CallContext} {how : LoopEnd}
    (hr : s.running = some r) (hend : (s.haltLoop r context).1.loopEnd? = some how) :
    (s.shutdown context).1 = shutdownAnswer context how := by
  simp [shutdown, hr, hend]

/-- A loop that has ended by itself is answered for, as it has ended. -/
theorem shutdown_of_ended {how : LoopEnd} (hend : s.loopEnd? = some how) (context : CallContext) :
    (s.shutdown context).1 = shutdownAnswer context how := by
  obtain ⟨r, hr, hending⟩ := Option.bind_eq_some_iff.1 hend
  exact shutdown_answer hr (loopEnd?_haltLoop_of_ended hr hending context)

/-- A task is told of no failure. -/
theorem shutdown_task (s : Server) : (s.shutdown .task).1 = .ok () := by
  unfold shutdown
  split <;> rfl

/-- The steps by which the accept loop comes to its end when it is told to stop, with the end and
    the server then. -/
structure Joins (s : Server) (own : List Event) (s' : Server) (how : LoopEnd) : Prop where
  /-- They are the loop's own: nothing else has to happen. -/
  isOwn : ∀ e ∈ own, e.isOwn = true
  run : ∃ effects, s.run ((Event.signalStop :: own).map Action.event) = some (s', effects)
  ends : s'.loopEnd? = some how

/-- A loop that is told to stop comes to its end by its own steps, and an ordinary thread is told
    about that end. -/
theorem exists_joins {signalled : Bool} {r : Running} (h : Heeds signalled s) (ha : Armed s)
    (hr : s.running = some r) :
    ∃ own s' how, Joins s own s' how ∧ (s.shutdown .plain).1 = shutdownAnswer .plain how := by
  obtain ⟨own, hown, hrun⟩ := exists_run_joinLoop hr
  obtain ⟨how, hend⟩ := exists_loopEnd?_haltLoop h ha hr .plain
  exact ⟨own, _, how, ⟨hown, ⟨_, hrun⟩, hend⟩, shutdown_answer hr hend⟩

/-! ## Every run of a server -/

/-- What starts and shutdowns do to a server. -/
structure Atomic (s : Server) : Prop where
  isRunning_eq : s.isRunning = s.pool.isRunning
  /-- A server that runs is not started again: it keeps its address and its accept loop. -/
  start_running : ∀ host, s.isRunning = true →
    (s.start host).1 = .ok () ∧ (s.start host).2.1 = s
  /-- A stopped server starts on every host that suits it.  It listens at the address that the host
      gives, with a new accept loop, and whatever it counts is as before. -/
  start_stopped : ∀ host, s.isRunning = false → host.Suits s → ∃ s' address log,
    s.start host = (.ok (), s', log) ∧ host.bound = .ok address ∧
      s'.running = some { address } ∧ s'.pool.isRunning = true ∧ s'.isListening = true ∧
      s'.occupancy = s.occupancy
  /-- A start that fails changes nothing, so that a later one succeeds on a host that suits.  It
      fails only if the host does not suit. -/
  start_failed : ∀ host failure s' log, s.start host = (.error failure, s', log) →
    s' = s ∧ ¬ host.Suits s ∧ ∀ later : Host, later.Suits s → (s'.start later).1 = .ok ()
  shutdown_stopped : ∀ context, s.isRunning = false → s.shutdown context = (.ok (), s, [])
  shutdown_running : ∀ context, s.isRunning = true →
    (s.shutdown context).2.1.isRunning = false ∧
      (s.shutdown context).2.1.pool.isRunning = false
  /-- A loop that has ended by itself is answered for: its failure is returned, if it was one. -/
  shutdown_ended : ∀ how, s.loopEnd? = some how →
    (s.shutdown .plain).1 = shutdownAnswer .plain how
  /-- Any other loop is told to stop, and comes to its end by its own steps.  It is answered for as
      well, since it may fail on the way. -/
  shutdown_joins : s.isRunning = true →
    ∃ own s' how, Joins s own s' how ∧ (s.shutdown .plain).1 = shutdownAnswer .plain how

/-- Whatever has happened to a server, an accept loop that has ended by itself included: a start
    succeeds or changes nothing, a shutdown always leaves the server and its workers stopped, also
    when it returns the failure of the loop, either does nothing where there is nothing to do, and a
    server that has been started listens. -/
theorem atomic_of_run (config : Config) (draws : Nat → ConnectionId) (security : Security)
    (actions : List Action) (s : Server) (history : List Effect)
    (h : (ofConfig config draws security).run actions = some (s, history)) : Atomic s := by
  have hsteady := steady_of_run h
  constructor
  case isRunning_eq => exact hsteady.pool.symm
  case start_running => exact fun host => start_of_running host
  case start_stopped =>
    intro host hs hsuits
    obtain ⟨address, log, -, hbound, hstart⟩ | ⟨_, _, hfault, -⟩ :=
      start_of_stopped host hsteady hs
    · exact ⟨_, address, log, hstart, hbound, rfl, rfl, rfl, rfl⟩
    · exact absurd hsuits hfault
  case start_failed =>
    intro host failure s' log hfailed
    cases hs : s.isRunning with
    | true =>
      have hok := (start_of_running host hs).1
      rw [hfailed] at hok
      exact nomatch hok
    | false =>
      obtain ⟨_, _, -, -, hstart⟩ | ⟨_, _, hfault, hstart⟩ :=
        start_of_stopped host hsteady hs
      · exact nomatch hstart.symm.trans hfailed
      · obtain ⟨-, rfl, -⟩ := hstart.symm.trans hfailed
        refine ⟨rfl, hfault, fun later hsuits => ?_⟩
        obtain ⟨_, _, -, -, hlater⟩ | ⟨_, _, hunsuited, -⟩ :=
          start_of_stopped later hsteady hs
        · rw [hlater]
        · exact absurd hsuits hunsuited
  case shutdown_stopped =>
    intro context hs
    have hnone : s.running = none := by simpa [isRunning] using hs
    simp [shutdown, hnone]
  case shutdown_running =>
    intro context hs
    obtain ⟨r, hr⟩ := Option.isSome_iff_exists.1 hs
    have hafter : (s.shutdown context).2.1 = (s.stopped r context).1 := by simp [shutdown, hr]
    rw [hafter, stopped_pool hr, isRunning, stopped_running s r context]
    exact ⟨rfl, rfl⟩
  case shutdown_ended => exact fun how hend => shutdown_of_ended hend .plain
  case shutdown_joins =>
    intro hs
    obtain ⟨r, hr⟩ := Option.isSome_iff_exists.1 hs
    exact exists_joins (heeds_of_run h) (armed_of_run h) hr

/-- A server is shut down in a cooldown, and the next start finds its port taken. -/
def restartFails : List Action :=
  ceilingReached ++ [.event .proceed, .shutdown .plain, .start { bound := .error addressInUse }]

theorem atomic_of_run_restartFails :
    ∃ s history s' log, (ofConfig { Config.default 2 with maxConnections := 1 }
        (fun n => ⟨.ofNat n⟩)).run restartFails = some (s, history) ∧
      s.isListening = false ∧ s.pool.isRunning = false ∧
      s.start { bound := .ok { ip := .v4 127 0 0 1, port := 8443 } } = (.ok (), s', log) ∧
      s'.isListening = true ∧ s'.pool.isRunning = true := by
  have hview : ((ofConfig { Config.default 2 with maxConnections := 1 }
      (fun n => ⟨.ofNat n⟩)).run restartFails).map (fun out =>
        (out.1.isListening, out.1.isRunning, out.1.security)) = some (false, false, .none) := by
    decide
  obtain ⟨⟨s, history⟩, hrun, hview⟩ := Option.map_eq_some_iff.1 hview
  simp only [Prod.mk.injEq] at hview
  obtain ⟨hcooling, hstopped, hsecurity⟩ := hview
  have hatomic := atomic_of_run _ _ _ _ s history hrun
  have hsuits : Host.Suits { bound := .ok { ip := .v4 127 0 0 1, port := 8443 } } s :=
    ⟨⟨[], by simp [loadTransport, hsecurity]⟩, rfl, ⟨_, rfl⟩, rfl⟩
  obtain ⟨s', address, log, hstart, -, -, hpool, hlistens, -⟩ :=
    hatomic.start_stopped _ hstopped hsuits
  exact ⟨s, history, s', log, hrun, hcooling, hatomic.isRunning_eq ▸ hstopped, hstart, hlistens,
    hpool⟩

end Server

end TlsEcho
