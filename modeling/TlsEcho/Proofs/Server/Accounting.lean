import TlsEcho.Proofs.Server.History
import TlsEcho.Proofs.Server.Sessions

/-!
# The account of a server

The registry and the live counter are shared by all sessions of a server, by those of earlier runs
too.  What they should say can be read off the history alone: a session is open from the effect
that starts it to the effect by which it leaves, and it counts as live once its connection has been
told that the handshake succeeded.  `Accounted` says that the registry and the counter agree with
the history, and that nobody has found a fault in them.

The proof goes through the sessions of the server.  An action that leaves these, the active ids and
the count alone keeps the account (`Accounted.frame`), which covers all of the accept loop but the
opening of a session.  A session's own step is `Accounted.stepSession`, and a shutdown is a sequence
of such steps.
-/

namespace TlsEcho.Server

variable {s s' : Server} {actions actions' : List Action} {history effects : List Effect}

/-! ## The account -/

/-- The registry, the counter and the sessions are as the history says. -/
structure Accounted (actions : List Action) (history : List Effect) (s : Server) : Prop where
  active : s.occupancy.registry.active.Perm (s.sessions.map fun p => p.2.id)
  live : s.liveCount = s.sessions.countP fun p => p.2.counted
  coherent : ∀ p ∈ s.sessions, p.2.Coherent ∧ p.2.isOver = false
  /-- No connection waits and has a session, and none has two. -/
  distinct : (s.sessions.map Prod.fst ++ s.waiting).Nodup
  numbered : ∀ c ∈ s.sessions.map Prod.fst ++ s.waiting, c < s.connections
  recorded : s.sessions.map (fun p => (p.1, p.2.id)) = openSessions history
  counted : ∀ p ∈ s.sessions, p.2.counted = shookHands actions p.1
  /-- Nothing has been heard of a connection without a session, nor of one that is to come. -/
  unheard : ∀ c, c ∈ s.waiting ∨ s.connections ≤ c →
    hasLeft history c = false ∧ shookHands actions c = false
  faultless : ∀ r ∈ Effect.records history, Occupancy.isFault r = false

/-- A new server has nothing to account for. -/
theorem accounted_ofConfig (config : Config) (draws : Nat → ConnectionId) (security : Security) :
    Accounted [] [] (ofConfig config draws security) := by
  constructor <;> simp [ofConfig, Registry.ofDraws, sessions, waiting, liveCount,
    Occupancy.liveCount, openSessions, started, hasLeft, shookHands, Effect.records]

/-- What leaves the sessions, the active ids and the counter alone keeps the account.  The
    connections that wait may change, provided that nothing has been heard of them. -/
private theorem Accounted.of_sessions_eq (h : Accounted actions history s)
    (hsessions : s'.sessions = s.sessions)
    (hactive : s'.occupancy.registry.active = s.occupancy.registry.active)
    (hlive : s'.occupancy.live = s.occupancy.live)
    (hdistinct : (s.sessions.map Prod.fst ++ s'.waiting).Nodup)
    (hnumbered : ∀ c ∈ s.sessions.map Prod.fst ++ s'.waiting, c < s'.connections)
    (hwaiting : ∀ c, c ∈ s'.waiting ∨ s'.connections ≤ c → c ∈ s.waiting ∨ s.connections ≤ c)
    (hshook : ∀ c, shookHands actions' c = shookHands actions c)
    (hquiet : effects.all Effect.isQuiet = true) : Accounted actions' (history ++ effects) s' where
  active := by rw [hactive, hsessions]; exact h.active
  live := by
    have := h.live
    simpa only [liveCount, Occupancy.liveCount, hlive, hsessions] using this
  coherent := by rw [hsessions]; exact h.coherent
  distinct := by rw [hsessions]; exact hdistinct
  numbered := by rw [hsessions]; exact hnumbered
  recorded := by rw [hsessions, openSessions_append_quiet hquiet]; exact h.recorded
  counted := by simpa only [hsessions, hshook] using h.counted
  unheard := by
    intro c hc
    obtain ⟨hl, hs⟩ := h.unheard c (hwaiting c hc)
    simp [hl, hasLeft_of_quiet hquiet, hshook, hs]
  faultless := by
    intro r hr
    rw [records_append, List.mem_append] at hr
    exact hr.elim (h.faultless r) (isFault_of_quiet hquiet)

/-- What leaves the sessions, the active ids and the counter alone keeps the account, provided that
    nobody starts to wait. -/
theorem Accounted.frame (h : Accounted actions history s) (hsessions : s'.sessions = s.sessions)
    (hactive : s'.occupancy.registry.active = s.occupancy.registry.active)
    (hlive : s'.occupancy.live = s.occupancy.live) (hwaiting : s'.waiting.Sublist s.waiting)
    (hconnections : s'.connections = s.connections)
    (hshook : ∀ c, shookHands actions' c = shookHands actions c)
    (hquiet : effects.all Effect.isQuiet = true) :
    Accounted actions' (history ++ effects) s' := by
  have hkeys := (List.Sublist.refl (s.sessions.map Prod.fst)).append hwaiting
  exact h.of_sessions_eq hsessions hactive hlive (h.distinct.sublist hkeys)
    (fun c hc => hconnections ▸ h.numbered c (hkeys.mem hc))
    (fun c hc => hc.imp (hwaiting.mem ·) (hconnections ▸ ·)) hshook hquiet

/-- A connection that is made waits under a new number. -/
theorem Accounted.arrive (h : Accounted actions history s) (hsessions : s'.sessions = s.sessions)
    (hoccupancy : s'.occupancy = s.occupancy) (hwaiting : s'.waiting = s.waiting ++ [s.connections])
    (hconnections : s'.connections = s.connections + 1)
    (hshook : ∀ c, shookHands actions' c = shookHands actions c) :
    Accounted actions' history s' := by
  have hkeys := h.numbered
  rw [← List.append_nil history]
  refine h.of_sessions_eq hsessions (by rw [hoccupancy]) (by rw [hoccupancy]) ?_ ?_ ?_ hshook rfl
  · rw [hwaiting, ← List.append_assoc, List.nodup_append]
    refine ⟨h.distinct, by simp, fun a ha b hb => ?_⟩
    have := hkeys a ha
    have := List.mem_singleton.1 hb
    omega
  · rw [hwaiting, hconnections, ← List.append_assoc]
    intro c hc
    obtain hc | hc := List.mem_append.1 hc
    · exact Nat.lt_succ_of_lt (hkeys c hc)
    · have := List.mem_singleton.1 hc
      omega
  · intro c hc
    rw [hwaiting, hconnections, List.mem_append, List.mem_singleton] at hc
    obtain (hc | rfl) | hc := hc
    · exact .inl hc
    · exact .inr (Nat.le_refl _)
    · exact .inr (Nat.le_of_succ_le hc)

/-- A session that is opened takes the place of the connection that waited for it first. -/
theorem Accounted.opened {c : Nat} {id : ConnectionId} {session : Session} {log : List Log.Record}
    (h : Accounted actions history s) (hsessions : s'.sessions = s.sessions ++ [(c, session)])
    (hactive : s'.occupancy.registry.active = session.id :: s.occupancy.registry.active)
    (hlive : s'.occupancy.live = s.occupancy.live) (hwaiting : s.waiting = c :: s'.waiting)
    (hconnections : s'.connections = s.connections) (hid : session.id = id)
    (hcoh : session.Coherent) (hover : session.isOver = false) (hcounted : session.counted = false)
    (hshook : ∀ c, shookHands actions' c = shookHands actions c)
    (hlog : ∀ r ∈ log, Occupancy.isFault r = false) :
    Accounted actions' (history ++ (log.map Effect.log ++ [.sessionStarted c id])) s' := by
  have hdistinct := h.distinct
  have hnumbered := h.numbered
  rw [hwaiting] at hdistinct hnumbered
  -- the connection has waited, so that nothing has been heard of it
  obtain ⟨hleft, hshook'⟩ := h.unheard c (.inl (hwaiting ▸ List.mem_cons_self ..))
  have hkeys : s'.sessions.map Prod.fst ++ s'.waiting =
      s.sessions.map Prod.fst ++ c :: s'.waiting := by simp [hsessions]
  constructor
  case active =>
    rw [hactive, hsessions, List.map_append]
    exact (h.active.cons _).trans (List.perm_append_singleton _ _).symm
  case live =>
    have := h.live
    simp only [liveCount, Occupancy.liveCount] at this ⊢
    simp [hlive, hsessions, this, hcounted]
  case coherent =>
    intro p hp
    rw [hsessions, List.mem_append, List.mem_singleton] at hp
    obtain hp | rfl := hp
    · exact h.coherent p hp
    · exact ⟨hcoh, hover⟩
  case distinct => rwa [hkeys]
  case numbered => rwa [hkeys, hconnections]
  case recorded =>
    have hl : ∀ c', hasLeft (log.map Effect.log ++ [.sessionStarted c id]) c' = false := by
      simp [hasLeft]
    rw [hsessions, List.map_append, h.recorded]
    simp [openSessions, hl, hleft, hid, started]
  case counted =>
    intro p hp
    rw [hshook]
    rw [hsessions, List.mem_append, List.mem_singleton] at hp
    obtain hp | rfl := hp
    · exact h.counted p hp
    · exact hcounted.trans hshook'.symm
  case unheard =>
    intro c' hc'
    have hl : hasLeft (log.map Effect.log ++ [.sessionStarted c id]) c' = false := by
      simp [hasLeft]
    -- whoever waits now has waited before
    obtain ⟨hl', hs'⟩ := h.unheard c'
      (hc'.imp (hwaiting ▸ List.mem_cons_of_mem _ ·) (hconnections ▸ ·))
    exact ⟨by rw [hasLeft_append, hl, hl']; rfl, (hshook c').trans hs'⟩
  case faultless =>
    intro r hr
    simp only [records_append, List.mem_append] at hr
    obtain hr | hr | hr := hr
    · exact h.faultless r hr
    · exact hlog r (by simpa [Effect.records, List.filterMap_map, Function.comp_def] using hr)
    · simp [Effect.records] at hr

/-! ## A step of a session -/

/-- A step of a session keeps the account, whatever stage the session is in and whatever it is
    told. -/
theorem Accounted.stepSession {c : Nat} {signal : Session.Signal}
    (h : Accounted actions history s) (hstep : s.stepSession c signal = some (s', effects))
    (hshook : ∀ c', shookHands actions' c' =
      (shookHands actions c' || (decide (c = c') && signal.isHandshake))) :
    Accounted actions' (history ++ effects) s' := by
  obtain ⟨session, session', emitted, hreplaced, hsig, hocc, hwaiting, hconnections, rfl⟩ :=
    stepSession_sessions hstep (List.nodup_append.1 h.distinct).1
  have ht := Session.step_transition hsig
  have hid := Session.id_step ht
  obtain ⟨hcoh, hover⟩ := h.coherent _ hreplaced.mem
  have hcoh' := Session.coherent_step ht hcoh
  have hcounted := hreplaced.countP (Session.counted_of_isOver hcoh')
  -- its id is active and its slot is counted, so that the step finds no fault
  have hidmem : session'.id ∈ s.occupancy.registry.active :=
    h.active.mem_iff.2 (List.mem_map.2 ⟨_, hreplaced.mem, hid.symm⟩)
  have hlive : s.occupancy.live.count = s.sessions.countP fun p => p.2.counted := h.live
  have hpos : session.counted = true → 0 < s.occupancy.live.count := fun hc =>
    hlive ▸ List.countP_pos_iff.2 ⟨_, hreplaced.mem, hc⟩
  obtain ⟨hactive, hcount, hfaults⟩ := Occupancy.applyAll_step ht hcoh s.occupancy hidmem hpos
  have hleft := Session.isLeft_step ht hcoh
  have hkeys := hreplaced.connections.append (List.Sublist.refl s.waiting)
  constructor
  case active =>
    rw [hocc, hactive, hid]
    exact hreplaced.ids hid h.active
  case live =>
    simp only [liveCount, Occupancy.liveCount, hocc]
    omega
  case coherent =>
    intro p hp
    obtain ⟨hp, -⟩ | ⟨ho, rfl⟩ := hreplaced.of_mem hp
    · exact h.coherent p hp
    · exact ⟨hcoh', ho⟩
  case distinct => exact hwaiting ▸ h.distinct.sublist hkeys
  case numbered => exact fun c hc => hconnections ▸ h.numbered c (hkeys.mem (hwaiting ▸ hc))
  case recorded =>
    rw [openSessions_session, hleft, hreplaced.pairs hid, h.recorded]
  case counted =>
    intro p hp
    rw [hshook]
    obtain ⟨hp, hne⟩ | ⟨ho, rfl⟩ := hreplaced.of_mem hp
    · simp [h.counted p hp, Ne.symm hne]
    · have hc : session.counted = shookHands actions c := h.counted _ hreplaced.mem
      simpa [hc] using Session.counted_step ht hcoh ho
  case unheard =>
    intro c' hc'
    rw [hwaiting, hconnections] at hc'
    -- a connection with a session neither waits for one nor is to come
    have hmem : c ∈ s.sessions.map Prod.fst := List.mem_map.2 ⟨_, hreplaced.mem, rfl⟩
    have hne : c ≠ c' := by
      rintro rfl
      obtain hw | hn := hc'
      · exact (List.nodup_append.1 h.distinct).2.2 c hmem c hw rfl
      · exact Nat.not_le_of_lt (h.numbered c (List.mem_append_left _ hmem)) hn
    rw [hasLeft_append, hasLeft_session, hshook]
    simp [h.unheard c' hc', hne]
  case faultless =>
    intro r hr
    rw [records_append, records_session, List.mem_append] at hr
    obtain hr | hr := hr
    · exact h.faultless r hr
    · exact eq_false_of_ne_true (List.filter_eq_nil_iff.1 hfaults r hr)

/-! ## The steps of the accept loop -/

/-- Every step of a server keeps the account. -/
theorem Accounted.step {e : Event} (h : Accounted actions history s)
    (ht : Transition s e s' effects) :
    Accounted (actions ++ [.event e]) (history ++ effects) s' := by
  cases ht with
  | connect hr =>
    rw [List.append_nil]
    exact h.arrive rfl rfl (by simp [waiting, hr]) rfl (by simp [shookHands])
  | openSession hr hst hc hclaim =>
    exact h.opened List.map_append (Registry.active_of_claim hclaim) rfl
      (by simp [waiting, hr, hst, AcceptLoop.admitted?]) rfl rfl (Session.coherent_start ..) rfl rfl
      (by simp [shookHands]) (isFault_claimLog _ _ _)
  | session hstep =>
    exact h.stepSession hstep (by simp [shookHands])
  | overflow | missCandidate | stop =>
    exact h.frame rfl rfl rfl (by simp [waiting_endLoop]) rfl (by simp [shookHands])
      (isQuiet_endLoop ..)
  | collide hr hst hc hclaim =>
    exact h.frame rfl (Registry.active_of_claim_none hclaim) rfl (by simp [waiting_endLoop]) rfl
      (by simp [shookHands]) (isQuiet_endLoop ..)
  | coolDown hr hst =>
    exact h.frame rfl rfl rfl (by simp [waiting, hr, hst, AcceptLoop.admitted?]) rfl
      (by simp [shookHands]) (isQuiet_log (isFault_checkLog _ _ _))
  | resume hr hst =>
    exact h.frame rfl rfl rfl (by simp [waiting, hr, hst, AcceptLoop.admitted?]) rfl
      (by simp [shookHands]) (isQuiet_log (isFault_resumeLog _))
  | accept hr hst hb =>
    exact h.frame rfl rfl rfl (by simp [waiting, hr, hst, hb, AcceptLoop.admitted?]) rfl
      (by simp [shookHands]) rfl
  | acceptFails hr hst =>
    exact h.frame rfl rfl rfl (by simp [waiting, hr, hst, AcceptLoop.admitted?]) rfl
      (by simp [shookHands]) rfl
  | drawStray | advance =>
    exact h.frame rfl rfl rfl (List.Sublist.refl _) rfl (by simp [shookHands]) rfl
  | draw hr | drawFails hr | signalStop hr =>
    exact h.frame rfl rfl rfl (by simp [waiting, hr, AcceptLoop.admitted?]) rfl
      (by simp [shookHands]) rfl
  -- nobody is being let in where the loop stands in these, and so nobody is left out
  | subscribe hr hst | permit hr hst | coolOn hr hst | catchUp hr hst | keepCandidate hr hst
  | spawnCandidate hr hst | liveChanged hr hst | wakeUp hr hst | retry hr hst =>
    exact h.frame rfl rfl rfl (by simp [waiting, hr, hst, AcceptLoop.admitted?]) rfl
      (by simp [shookHands]) rfl

/-! ## Starts and shutdowns -/

/-- A start keeps the account, whether it succeeds or not. -/
theorem Accounted.start {host : Host} (h : Accounted actions history s)
    (hact : s.act (.start host) = some (s', effects)) :
    Accounted (actions ++ [.start host]) (history ++ effects) s' := by
  have hquiet := isQuiet_log (isFault_start s host)
  obtain ⟨rfl, rfl | ⟨-, pool, rfl⟩ | ⟨-, pool, address, rfl⟩⟩ := act_start_eq_some hact
  · exact h.frame rfl rfl rfl (List.Sublist.refl _) rfl (by simp [shookHands]) hquiet
  · exact h.frame rfl rfl rfl (List.Sublist.refl _) rfl (by simp [shookHands]) hquiet
  · exact h.frame rfl rfl rfl (by simp [waiting, launched, AcceptLoop.admitted?]) rfl
      (by simp [shookHands]) hquiet

/-- Giving up any sessions keeps the account. -/
theorem Accounted.abandon (h : Accounted actions history s) (connections : List Nat) :
    Accounted actions (history ++ (s.abandon connections).2) (s.abandon connections).1 := by
  induction connections generalizing s history with
  | nil => simpa [Server.abandon] using h
  | cons c rest ih =>
    unfold Server.abandon
    split
    · exact ih h
    · rename_i hstep
      simpa using ih (h.stepSession hstep (by simp [Session.Signal.isHandshake]))

/-- Stopping the workers gives up their sessions at once or leaves them over. -/
private theorem Accounted.stopWorkers (h : Accounted actions history s) (context : CallContext) :
    Accounted actions (history ++ (s.stopWorkers context).2) (s.stopWorkers context).1 := by
  cases context with
  | plain =>
    rw [← List.append_nil (history ++ _)]
    exact (h.abandon s.ownConnections).frame rfl rfl rfl (List.Sublist.refl _) rfl
      (fun _ => rfl) rfl
  | task =>
    exact h.frame (by simp [sessions, Server.stopWorkers, Function.comp_def]) rfl rfl
      (List.Sublist.refl _) rfl (fun _ => rfl) rfl

/-- The accept loop tells no connection of its handshake. -/
theorem shookHands_append_own {e : Event} (he : e.isOwn = true) (c : Nat) :
    shookHands (actions ++ [.event e]) c = shookHands actions c := by
  cases e <;> simp_all [shookHands, Event.isOwn]

/-- The accept loop keeps the account on its way to its end, where it may still open a session. -/
theorem Accounted.stepOwn {e : Event} (h : Accounted actions history s) (he : e.isOwn = true)
    (ht : Transition s e s' effects) : Accounted actions (history ++ effects) s' := by
  rw [← List.append_nil (history ++ effects)]
  exact (h.step ht).frame rfl rfl rfl (List.Sublist.refl _) rfl
    (fun c => (shookHands_append_own he c).symm) rfl

/-- A loop that is aborted refuses who waits, and keeps the account. -/
theorem Accounted.aborted (h : Accounted actions history s) (r : Running) :
    Accounted actions (history ++ (s.endLoop r .stopped).2) (s.endLoop r .stopped).1 :=
  h.frame rfl rfl rfl (by simp [waiting_endLoop]) rfl (fun _ => rfl) (isQuiet_endLoop s r .stopped)

/-- The end of the accept loop keeps the account, whether it is waited for or not. -/
theorem Accounted.haltLoop {r : Running} (h : Accounted actions history s)
    (hr : s.running = some r) (context : CallContext) :
    Accounted actions (history ++ (s.haltLoop r context).2) (s.haltLoop r context).1 :=
  haltLoop_invariant (P := Accounted actions) (fun _ _ _ _ _ he h ht => h.stepOwn he ht)
    (fun _ _ r _ h => h.aborted r) hr history h context

/-- Once the loop has ended nobody waits for it any more. -/
theorem Accounted.withoutRunning (h : Accounted actions history s) :
    Accounted actions history { s with running := none } := by
  rw [← List.append_nil history]
  exact h.frame rfl rfl rfl (List.nil_sublist _) rfl (fun _ => rfl) rfl

/-- The end of the accept loop and of the workers keeps the account. -/
theorem Accounted.stopped {r : Running} (h : Accounted actions history s)
    (hr : s.running = some r) (context : CallContext) :
    Accounted actions (history ++ (s.stopped r context).2) (s.stopped r context).1 := by
  rw [stopped_eq, ← List.append_assoc]
  exact (h.haltLoop hr context).withoutRunning.stopWorkers context

/-- A shutdown keeps the account, wherever it is called. -/
theorem Accounted.shutdown {context : CallContext} (h : Accounted actions history s)
    (hact : s.act (.shutdown context) = some (s', effects)) :
    Accounted (actions ++ [.shutdown context]) (history ++ effects) s' := by
  obtain ⟨-, rfl, rfl⟩ | ⟨r, hr, rfl, rfl⟩ := act_shutdown_eq_some hact
  · exact h.frame rfl rfl rfl (List.Sublist.refl _) rfl (by simp [shookHands]) rfl
  · rw [← List.append_assoc]
    exact (h.stopped hr context).frame rfl rfl rfl (List.Sublist.refl _) rfl (by simp [shookHands])
      (isQuiet_log (isFault_shutdown s context))

/-! ## Every run of a server -/

/-- Every action keeps the account. -/
theorem Accounted.act {a : Action} (h : Accounted actions history s)
    (hact : s.act a = some (s', effects)) :
    Accounted (actions ++ [a]) (history ++ effects) s' := by
  cases a with
  | event e => exact h.step (step_transition hact)
  | start host => exact h.start hact
  | shutdown context => exact h.shutdown hact

/-- The account holds after every run. -/
theorem accounted_of_run {config : Config} {draws : Nat → ConnectionId} {security : Security}
    (h : (ofConfig config draws security).run actions = some (s, history)) :
    Accounted actions history s :=
  run_invariant (accounted_ofConfig config draws security)
    (fun _ _ _ _ _ _ hs hact => hs.act hact) h

/-- There are as many active ids as sessions. -/
theorem Accounted.activeCount_eq (h : Accounted actions history s) :
    s.activeCount = s.sessions.length :=
  h.active.length_eq.trans (List.length_map _)

/-- There are never more live connections than active ids. -/
theorem Accounted.liveCount_le (h : Accounted actions history s) :
    s.liveCount ≤ s.activeCount := by
  rw [h.live, h.activeCount_eq]
  exact List.countP_le_length

/-- The registry and the live counter against what has happened. -/
structure Tallied (actions : List Action) (history : List Effect) (s : Server) : Prop where
  /-- The active ids are the ids of the sessions that were started and have not left. -/
  active : s.occupancy.registry.active.Perm ((openSessions history).map Prod.snd)
  /-- Each of them is active once. -/
  once : ((openSessions history).map Prod.snd).Nodup
  /-- Those count as live whose handshake succeeded. -/
  live : s.liveCount = ((openSessions history).countP fun p => shookHands actions p.1)
  /-- These are the sessions that the server still has. -/
  tasks : (s.tasks.map fun t => (t.connection, t.session.id)) = openSessions history
  underway : ∀ t ∈ s.tasks, t.session.isOver = false
  live_le_active : s.liveCount ≤ s.activeCount
  /-- Nothing is counted or active once no session is open. -/
  empty : openSessions history = [] → s.liveCount = 0 ∧ s.activeCount = 0
  /-- Every open session would find its id active and its slot counted if it left. -/
  releasable : ∀ t ∈ s.tasks,
    (∃ registry, s.occupancy.registry.release t.session.id = .ok registry) ∧
      (t.session.counted = true → 0 < s.liveCount)
  /-- No id was released twice, and the counter never fell below zero. -/
  faultless : ∀ r ∈ Effect.records history, r.message ≠ Occupancy.releasedTwiceMessage ∧
    r.message ≠ Admission.LiveCounter.underflowMessage

/-- After every run of a server the active ids are the ids of the sessions that were started and
    have not left, each of them once, and the live counter counts those of them whose handshake
    succeeded.  These are the sessions that the server still has, and none of them is over.  So
    nothing is counted or active once no session is open, every open session finds its id active and
    its slot counted when it leaves, and no record of the run says otherwise. -/
theorem active_perm_openSessions (config : Config) (draws : Nat → ConnectionId)
    (security : Security) (actions : List Action) (s : Server) (history : List Effect)
    (h : (ofConfig config draws security).run actions = some (s, history)) :
    Tallied actions history s := by
  have ha := accounted_of_run h
  -- what the account says of the sessions, said of the history
  have hids : (s.sessions.map fun p => p.2.id) = (openSessions history).map Prod.snd := by
    rw [← ha.recorded, List.map_map]
    rfl
  have hactive := hids ▸ ha.active
  have hlive : s.liveCount = (openSessions history).countP fun p => shookHands actions p.1 := by
    rw [ha.live, ← ha.recorded, List.countP_map]
    exact List.countP_congr fun p hp => by rw [ha.counted p hp]; rfl
  have hsize : s.activeCount = (openSessions history).length := by
    rw [ha.activeCount_eq, ← ha.recorded, List.length_map]
  have htask : ∀ t ∈ s.tasks, (t.connection, t.session) ∈ s.sessions :=
    fun t ht => List.mem_map.2 ⟨t, ht, rfl⟩
  constructor
  case active => exact hactive
  case once => exact hactive.nodup_iff.1 s.occupancy.registry.nodup
  case live => exact hlive
  case tasks =>
    rw [← ha.recorded, sessions, List.map_map]
    rfl
  case underway => exact fun t ht => (ha.coherent _ (htask t ht)).2
  case live_le_active => exact ha.liveCount_le
  case empty =>
    intro hnone
    simp [hlive, hsize, hnone]
  case releasable =>
    intro t ht
    have hmem : t.session.id ∈ s.occupancy.registry.active :=
      ha.active.mem_iff.2 (List.mem_map.2 ⟨_, htask t ht, rfl⟩)
    refine ⟨⟨_, if_pos hmem⟩, fun hc => ?_⟩
    rw [ha.live]
    exact List.countP_pos_iff.2 ⟨_, htask t ht, hc⟩
  case faultless =>
    intro r hr
    simpa [Occupancy.isFault] using ha.faultless r hr

/-- Two clients, of which the first one has finished its handshake. -/
def twoClients : List Action :=
  [.start { bound := .ok { ip := .v4 127 0 0 1, port := 8443 } }, .event (.connect none),
    .event (.connect none), .event .proceed, .event .proceed, .event .proceed, .event .draw,
    .event .accept, .event .proceed, .event (.session 0 .go), .event (.session 0 .go),
    .event (.session 0 (.handshake (.ok ()))), .event .proceed, .event .proceed, .event .draw,
    .event .accept, .event .proceed]

theorem active_perm_openSessions_twoClients :
    ∃ s history, (ofConfig (Config.default 2) (fun n => ⟨.ofNat n⟩)).run twoClients =
        some (s, history) ∧
      openSessions history = [(0, ⟨0⟩), (1, ⟨1⟩)] ∧ s.liveCount = 1 ∧
      s.occupancy.registry.active.Perm [⟨0⟩, ⟨1⟩] := by
  have hopen : ((ofConfig (Config.default 2) (fun n => ⟨.ofNat n⟩)).run twoClients).map
      (fun out => openSessions out.2) = some [(0, ⟨0⟩), (1, ⟨1⟩)] := by decide
  obtain ⟨⟨s, history⟩, hrun, hopen⟩ := Option.map_eq_some_iff.1 hopen
  have htallied := active_perm_openSessions _ _ _ _ _ _ hrun
  have hactive := htallied.active
  have hlive := htallied.live
  simp only at hopen
  rw [hopen] at hactive hlive
  exact ⟨s, history, hrun, hopen, hlive.trans (by decide), hactive⟩

end TlsEcho.Server
