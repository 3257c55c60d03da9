import TlsEcho.Proofs.Server.Accounting
import TlsEcho.Proofs.Session.Names

/-!
# Sessions side by side

The sessions of a server share its registry and its live counter, and take their steps in any order.
None of them notices.  `script` collects the signals that the session of one connection has been
given, and `Isolated` says that every session has come to where it comes alone on its own script,
with the same effects.

A step of the server either is a step of one session, which is one more signal in its script and in
no other (`Isolated.stepSession`), or opens a session, whose script is empty, or leaves sessions
alone (`Isolated.frame`).  A shutdown gives the signal to leave to one session after the other, once
the accept loop has ended.
-/

namespace TlsEcho.Server

variable {s s' : Server} {ctx : Session.Context} {told told' : Nat → List Session.Signal}
  {actions : List Action} {history effects : List Effect} {a : Action}

/-! ## What one session was told and what it did -/

/-- What the session of a connection did. -/
def sessionEffects (c : Nat) (history : List Effect) : List Session.Effect :=
  history.filterMap fun
    | .session c' e => if c' = c then some e else none
    | _ => none

/-- The signals that an action gives to the session of a connection.  A shutdown gives up the
    sessions that the workers drive when the accept loop has ended. -/
def signalsOf (s : Server) (c : Nat) : Action → List Session.Signal
  | .event (.session c' signal) => if c' = c then [signal] else []
  | .shutdown .plain =>
    s.running.elim [] fun r =>
      if c ∈ (s.haltLoop r .plain).1.ownConnections then [.abandon] else []
  | _ => []

/-- The signals that a sequence of actions gives to the session of a connection. -/
def script (s : Server) (c : Nat) : List Action → List Session.Signal
  | [] => []
  | a :: rest =>
    s.signalsOf c a ++ match s.act a with
      | some (after, _) => after.script c rest
      | none => []

theorem script_append_singleton {c : Nat} (h : s.run actions = some (s', history)) :
    s.script c (actions ++ [a]) = s.script c actions ++ s'.signalsOf c a := by
  induction actions generalizing s history with
  | nil =>
    obtain ⟨rfl, -⟩ := h
    rw [List.nil_append, Server.script, Server.script]
    split <;> simp [Server.script]
  | cons b rest ih =>
    obtain ⟨s₁, first, later, hact, hrest, -⟩ := run_cons_eq_some.1 h
    simp only [List.cons_append, Server.script, hact, ih hrest, List.append_assoc]

theorem sessionEffects_append (c : Nat) (first later : List Effect) :
    sessionEffects c (first ++ later) = sessionEffects c first ++ sessionEffects c later :=
  List.filterMap_append

/-- Whether an effect is none of a session, and starts none. -/
def Effect.isAside : Effect → Bool
  | .sessionStarted .. | .session .. => false
  | _ => true

theorem started_of_isAside (h : effects.all Effect.isAside = true) : started effects = [] := by
  refine List.filterMap_eq_nil_iff.2 fun e he => ?_
  have haside := List.all_eq_true.1 h e he
  cases e <;> simp_all [Effect.isAside]

theorem sessionEffects_of_isAside (h : effects.all Effect.isAside = true) (c : Nat) :
    sessionEffects c effects = [] := by
  refine List.filterMap_eq_nil_iff.2 fun e he => ?_
  have haside := List.all_eq_true.1 h e he
  cases e <;> simp_all [Effect.isAside]

theorem isAside_log (log : List Log.Record) : (log.map Effect.log).all Effect.isAside = true := by
  simp [Effect.isAside]

theorem isAside_endLoop (s : Server) (r : Running) (how : LoopEnd) :
    (s.endLoop r how).2.all Effect.isAside = true := by
  simp [Effect.isAside]

/-- The effects of a step of one session are its own. -/
theorem sessionEffects_session {c c' : Nat} {log : List Log.Record}
    {emitted : List Session.Effect} :
    sessionEffects c' (log.map Effect.log ++ emitted.map (Effect.session c)) =
      if c = c' then emitted else [] := by
  rw [sessionEffects_append, sessionEffects_of_isAside (isAside_log log), List.nil_append]
  rw [sessionEffects, List.filterMap_map]
  show emitted.filterMap (fun e => if c = c' then some e else none) = _
  by_cases hc : c = c'
  · simp only [if_pos hc]
    exact List.filterMap_some
  · simp only [if_neg hc]
    exact List.filterMap_eq_nil_iff.2 fun _ _ => rfl

/-! ## Sessions that go their own way -/

/-- Every session is where it comes alone on its script, and has the same effects.  It is there as
    long as it is not over.  A connection without a session was told nothing. -/
structure Isolated (ctx : Session.Context) (told : Nat → List Session.Signal)
    (history : List Effect) (s : Server) : Prop where
  alone : ∀ p ∈ started history, ∃ peer session,
    (Session.start ctx p.2 peer).run ctx (told p.1) =
      some (session, sessionEffects p.1 history) ∧
    Keeps s.sessions p.1 session
  silent : ∀ c, c ∉ (started history).map Prod.fst →
    told c = [] ∧ sessionEffects c history = []

/-- What leaves the sessions alone keeps them apart. -/
theorem Isolated.frame (h : Isolated ctx told history s) (hsessions : s'.sessions = s.sessions)
    (htold : ∀ c, told' c = told c) (haside : effects.all Effect.isAside = true) :
    Isolated ctx told' (history ++ effects) s' := by
  have hstarted : started (history ++ effects) = started history := by
    rw [started_append, started_of_isAside haside, List.append_nil]
  have heffects : ∀ c, sessionEffects c (history ++ effects) = sessionEffects c history := by
    intro c
    rw [sessionEffects_append, sessionEffects_of_isAside haside, List.append_nil]
  constructor
  case alone =>
    intro p hp
    rw [hstarted] at hp
    rw [htold, heffects, hsessions]
    exact h.alone p hp
  case silent =>
    intro c hc
    rw [hstarted] at hc
    rw [htold, heffects]
    exact h.silent c hc

/-- A session that the server has was started, and no connection that waits has one. -/
theorem Accounted.mem_started (h : Accounted actions history s) {p : Nat × Session}
    (hp : p ∈ s.sessions) : (p.1, p.2.id) ∈ started history := by
  have hopen : (p.1, p.2.id) ∈ openSessions history := by
    rw [← h.recorded]
    exact List.mem_map.2 ⟨p, hp, rfl⟩
  exact (List.mem_filter.1 hopen).1

theorem Accounted.not_started_of_waiting (h : Accounted actions history s) {c : Nat}
    (hc : c ∈ s.waiting) : c ∉ (started history).map Prod.fst := by
  intro hstarted
  obtain ⟨p, hp, rfl⟩ := List.mem_map.1 hstarted
  -- the connection has not left, so that its session would still be there
  have hopen : p ∈ openSessions history := by
    refine List.mem_filter.2 ⟨hp, ?_⟩
    rw [(h.unheard p.1 (.inl hc)).1]
    rfl
  rw [← h.recorded] at hopen
  obtain ⟨q, hq, rfl⟩ := List.mem_map.1 hopen
  have hmem : q.1 ∈ s.sessions.map Prod.fst := List.mem_map.2 ⟨q, hq, rfl⟩
  exact (List.nodup_append.1 h.distinct).2.2 q.1 hmem q.1 hc rfl

/-- A session that is opened has been told nothing yet. -/
theorem Isolated.opened {c : Nat} {id : ConnectionId} {peer : Option Address}
    {log : List Log.Record} (h : Isolated ctx told history s)
    (hnew : c ∉ (started history).map Prod.fst)
    (hsessions : s'.sessions = s.sessions ++ [(c, Session.start ctx id peer)])
    (htold : ∀ c, told' c = told c) :
    Isolated ctx told' (history ++ (log.map Effect.log ++ [.sessionStarted c id])) s' := by
  have hstarted : started (history ++ (log.map Effect.log ++ [.sessionStarted c id])) =
      started history ++ [(c, id)] := by
    rw [started_append, started_append, started_of_isAside (isAside_log log)]
    rfl
  have heffects : ∀ c', sessionEffects c'
      (history ++ (log.map Effect.log ++ [.sessionStarted c id])) = sessionEffects c' history := by
    intro c'
    rw [sessionEffects_append, sessionEffects_append, sessionEffects_of_isAside (isAside_log log)]
    exact List.append_nil _
  constructor
  case alone =>
    intro p hp
    rw [htold, heffects, hsessions]
    rw [hstarted, List.mem_append, List.mem_singleton] at hp
    obtain hp | rfl := hp
    · obtain ⟨peer', session, hrun, hkept⟩ := h.alone p hp
      have hne : p.1 ≠ c := fun hc => hnew (hc ▸ List.mem_map_of_mem hp)
      exact ⟨peer', session, hrun, hkept.append_singleton hne⟩
    · obtain ⟨hempty, hnone⟩ := h.silent c hnew
      refine ⟨peer, Session.start ctx id peer, ?_, .of_mem (by simp) rfl⟩
      rw [hempty, hnone]
      rfl
  case silent =>
    intro c' hc'
    rw [hstarted, List.map_append, List.mem_append, not_or] at hc'
    rw [htold, heffects]
    exact h.silent c' hc'.1

/-- A step of a session is one more signal for it, and nothing for the others. -/
theorem Isolated.stepSession {c : Nat} {signal : Session.Signal}
    (h : Isolated ctx told history s) (ha : Accounted actions history s)
    (hctx : s.context = ctx) (hstep : s.stepSession c signal = some (s', effects))
    (htold : ∀ c', told' c' = told c' ++ if c = c' then [signal] else []) :
    Isolated ctx told' (history ++ effects) s' := by
  obtain ⟨hkeys, -⟩ := List.nodup_append.1 ha.distinct
  obtain ⟨session, session', emitted, hreplaced, hsig, -, -, -, rfl⟩ :=
    stepSession_sessions hstep hkeys
  rw [hctx] at hsig
  have hmem := hreplaced.mem
  generalize hlog : (s.occupancy.applyAll session'.id emitted).log = log
  have hstarted : started (history ++ (log.map Effect.log ++ emitted.map (Effect.session c))) =
      started history := by
    simp [started, List.filterMap_map]
  have heffects : ∀ c', sessionEffects c'
      (history ++ (log.map Effect.log ++ emitted.map (Effect.session c))) =
      sessionEffects c' history ++ if c = c' then emitted else [] := by
    intro c'
    rw [sessionEffects_append, sessionEffects_session]
  constructor
  case alone =>
    intro p hp
    rw [hstarted] at hp
    rw [htold, heffects]
    obtain ⟨peer, session₀, hrun, hkept⟩ := h.alone p hp
    by_cases hc : c = p.1
    · -- the session that takes the step is the one that its script has led to
      subst hc
      obtain rfl := hkept.eq_of_replaced hreplaced
      have hnext := Session.run_append_eq_some.2
        ⟨session₀, _, emitted, hrun, Session.run_singleton.trans hsig, rfl⟩
      rw [if_pos rfl, if_pos rfl]
      exact ⟨peer, session', hnext, .of_replaced hreplaced⟩
    · rw [if_neg hc, if_neg hc, List.append_nil, List.append_nil]
      exact ⟨peer, session₀, hrun, hkept.replaced hreplaced (Ne.symm hc)⟩
  case silent =>
    intro c' hc'
    rw [hstarted] at hc'
    have hne : c ≠ c' := by
      rintro rfl
      exact hc' (List.mem_map_of_mem (ha.mem_started hmem))
    rw [htold, heffects, if_neg hne, if_neg hne, List.append_nil, List.append_nil]
    exact h.silent c' hc'

/-! ## The steps of the server -/

/-- Every step of the server keeps the sessions apart. -/
theorem Isolated.step {e : Event} (h : Isolated ctx told history s)
    (ha : Accounted actions history s) (hctx : s.context = ctx) (ht : Transition s e s' effects)
    (htold : ∀ c, told' c = told c ++ s.signalsOf c (.event e)) :
    Isolated ctx told' (history ++ effects) s' := by
  cases ht with
  | session hstep => exact h.stepSession ha hctx hstep htold
  | openSession hr hst hc hclaim =>
    have hnew := ha.not_started_of_waiting
      (by simp only [waiting, hr, hst, Option.elim_some, AcceptLoop.admitted?]; exact .head _)
    subst hctx
    exact h.opened hnew List.map_append fun c => (htold c).trans (List.append_nil _)
  | _ =>
    -- nothing else is told to a session
    exact h.frame rfl (fun c => (htold c).trans (List.append_nil _)) (by simp [Effect.isAside])

/-! ## Shutdowns -/

/-- A session that is not over can be given up. -/
theorem exists_stepSession_abandon (ha : Accounted actions history s) {c : Nat}
    (hc : c ∈ s.sessions.map Prod.fst) :
    ∃ s' effects, s.stepSession c .abandon = some (s', effects) := by
  cases hfind : s.tasks.find? (fun t => t.connection = c) with
  | none =>
    obtain ⟨p, hp, rfl⟩ := List.mem_map.1 hc
    obtain ⟨t, ht, rfl⟩ := List.mem_map.1 hp
    have hne := List.find?_eq_none.1 hfind t ht
    simp at hne
  | some task =>
    have hmem : (task.connection, task.session) ∈ s.sessions :=
      List.mem_map.2 ⟨task, List.mem_of_find?_eq_some hfind, rfl⟩
    obtain ⟨session', emitted, hstep⟩ :=
      Session.exists_step_abandon s.context (ha.coherent _ hmem).2
    exact ⟨_, _, stepSession_eq_some.2 ⟨task, session', emitted, hfind, hstep, rfl, rfl⟩⟩

/-- Sessions that are given up one after the other are told so, each of them once. -/
theorem Isolated.abandon {connections : List Nat} (h : Isolated ctx told history s)
    (ha : Accounted actions history s) (hctx : s.context = ctx) (hnodup : connections.Nodup)
    (hmem : ∀ c ∈ connections, c ∈ s.sessions.map Prod.fst)
    (htold : ∀ c, told' c = told c ++ if c ∈ connections then [.abandon] else []) :
    Isolated ctx told' (history ++ (s.abandon connections).2) (s.abandon connections).1 := by
  induction connections generalizing s history told with
  | nil => exact h.frame rfl (by simpa using htold) rfl
  | cons c rest ih =>
    obtain ⟨hfresh, hnodup⟩ := List.nodup_cons.1 hnodup
    obtain ⟨hc, hrest⟩ := List.forall_mem_cons.1 hmem
    obtain ⟨s₁, effects, hstep⟩ := exists_stepSession_abandon ha hc
    have ha₁ : Accounted actions (history ++ effects) s₁ :=
      ha.stepSession hstep (by simp [Session.Signal.isHandshake])
    have hctx₁ : s₁.context = ctx := by
      obtain ⟨_, _, _, -, -, rfl, -⟩ := stepSession_eq_some.1 hstep
      exact hctx
    have h₁ := h.stepSession ha hctx hstep fun _ => rfl
    -- the others are still there
    have hrest₁ : ∀ c' ∈ rest, c' ∈ s₁.sessions.map Prod.fst := by
      intro c' hc'
      obtain ⟨p, hp, rfl⟩ := List.mem_map.1 (hrest c' hc')
      obtain ⟨_, _, _, hreplaced, -⟩ :=
        stepSession_sessions hstep (List.nodup_append.1 ha.distinct).1
      have hne : p.1 ≠ c := fun hpc => hfresh (hpc ▸ hc')
      exact List.mem_map_of_mem (hreplaced.mem_of_ne hp hne)
    have hthen := ih h₁ ha₁ hctx₁ hnodup hrest₁ (by
      intro c'
      rw [htold c', List.append_assoc]
      by_cases hcc : c = c'
      · subst hcc
        simp [hfresh]
      · simp [hcc, Ne.symm hcc])
    rw [List.append_assoc] at hthen
    simpa only [Server.abandon, hstep] using hthen

/-- The sessions that the workers drive are sessions of the server, each of another connection. -/
theorem Accounted.ownConnections (h : Accounted actions history s) :
    s.ownConnections.Nodup ∧ ∀ c ∈ s.ownConnections, c ∈ s.sessions.map Prod.fst := by
  have hsub : s.ownConnections.Sublist (s.sessions.map Prod.fst) := by
    rw [sessions, List.map_map]
    exact List.filter_sublist.map _
  exact ⟨(List.nodup_append.1 h.distinct).1.sublist hsub, fun c hc => hsub.mem hc⟩

/-- Stopping the workers gives up their sessions at once, or later one by one. -/
theorem Isolated.stopWorkers {context : CallContext} (h : Isolated ctx told history s)
    (ha : Accounted actions history s) (hctx : s.context = ctx)
    (htold : ∀ c, told' c = told c ++
      if context = .plain ∧ c ∈ s.ownConnections then [.abandon] else []) :
    Isolated ctx told' (history ++ (s.stopWorkers context).2) (s.stopWorkers context).1 := by
  cases context with
  | plain =>
    obtain ⟨hnodup, hmem⟩ := ha.ownConnections
    have hgone := h.abandon ha hctx hnodup hmem (by simpa using htold)
    rw [← List.append_nil (history ++ _)]
    exact hgone.frame rfl (fun _ => rfl) rfl
  | task =>
    exact h.frame (by simp [sessions, Server.stopWorkers, Function.comp_def]) (by simpa using htold)
      rfl

/-- The accept loop tells no session anything. -/
theorem signalsOf_own {e : Event} (he : e.isOwn = true) (s : Server) (c : Nat) :
    s.signalsOf c (.event e) = [] := by
  cases e <;> simp_all [signalsOf, Event.isOwn]

/-- Whatever the accept loop does on its way to its end keeps the sessions apart, and they go on
    under the same settings. -/
theorem Isolated.haltLoop {r : Running} (h : Isolated ctx told history s)
    (ha : Accounted actions history s) (hctx : s.context = ctx) (hr : s.running = some r)
    (context : CallContext) :
    Isolated ctx told (history ++ (s.haltLoop r context).2) (s.haltLoop r context).1 ∧
      (s.haltLoop r context).1.context = ctx := by
  have hhalt := haltLoop_invariant (P := fun history s =>
    Isolated ctx told history s ∧ Accounted actions history s ∧ s.context = ctx) ?_ ?_ hr
    history ⟨h, ha, hctx⟩ context
  · exact ⟨hhalt.1, hhalt.2.2⟩
  · rintro history s e s' more he ⟨h, ha, hctx⟩ ht
    have htold : ∀ c, told c = told c ++ s.signalsOf c (.event e) := fun c => by
      rw [signalsOf_own he, List.append_nil]
    have hconfig : s'.context = s.context := by rw [Server.context, (limits_step ht).1]; rfl
    exact ⟨h.step ha hctx ht htold, ha.stepOwn he ht, hconfig.trans hctx⟩
  · rintro history s r _ ⟨h, ha, hctx⟩
    exact ⟨h.frame rfl (fun _ => rfl) (isAside_endLoop s r .stopped), ha.aborted r, hctx⟩

/-- A shutdown tells the sessions to leave that there are when the accept loop has ended. -/
theorem signalsOf_shutdown {r : Running} (hr : s.running = some r) (c : Nat)
    (context : CallContext) :
    s.signalsOf c (.shutdown context) =
      if context = .plain ∧ c ∈ (s.haltLoop r context).1.ownConnections then [.abandon]
      else [] := by
  cases context <;> simp [signalsOf, hr]

/-- A shutdown gives up the sessions that the workers drive, if it is called by a thread that can
    wait for that. -/
theorem Isolated.shutdown {context : CallContext} (h : Isolated ctx told history s)
    (ha : Accounted actions history s) (hctx : s.context = ctx)
    (hact : s.act (.shutdown context) = some (s', effects))
    (htold : ∀ c, told' c = told c ++ s.signalsOf c (.shutdown context)) :
    Isolated ctx told' (history ++ effects) s' := by
  obtain ⟨hr, rfl, rfl⟩ | ⟨r, hr, rfl, rfl⟩ := act_shutdown_eq_some hact
  · refine h.frame rfl (fun c => ?_) rfl
    rw [htold]
    cases context <;> simp [signalsOf, hr]
  · -- the accept loop ends first, and no session notices
    obtain ⟨hhalted, hcontext⟩ := h.haltLoop ha hctx hr context
    have halone : Isolated ctx told (history ++ (s.haltLoop r context).2)
        { (s.haltLoop r context).1 with running := none } := by
      rw [← List.append_nil (history ++ _)]
      exact hhalted.frame rfl (fun _ => rfl) rfl
    have htold' : ∀ c, told' c = told c ++
        if context = .plain ∧ c ∈ (s.haltLoop r context).1.ownConnections then [.abandon]
        else [] := by
      intro c
      rw [htold, signalsOf_shutdown hr]
    have hgone := halone.stopWorkers (ha.haltLoop hr context).withoutRunning hcontext htold'
    rw [stopped_eq, ← List.append_assoc, ← List.append_assoc]
    exact hgone.frame rfl (fun _ => rfl) (isAside_log _)

/-! ## Every run of a server -/

/-- Every action keeps the sessions apart. -/
theorem Isolated.act (h : Isolated ctx told history s) (ha : Accounted actions history s)
    (hctx : s.context = ctx) (hact : s.act a = some (s', effects))
    (htold : ∀ c, told' c = told c ++ s.signalsOf c a) :
    Isolated ctx told' (history ++ effects) s' := by
  cases a with
  | shutdown context => exact h.shutdown ha hctx hact htold
  | start host =>
    have hsame : ∀ c, told' c = told c := fun c => (htold c).trans (List.append_nil _)
    obtain ⟨rfl, rfl | ⟨-, pool, rfl⟩ | ⟨-, pool, address, rfl⟩⟩ := act_start_eq_some hact <;>
      exact h.frame rfl hsame (isAside_log _)
  | event e => exact h.step ha hctx (step_transition hact) htold

section Runs

variable {config : Config} {draws : Nat → ConnectionId} {security : Security}

/-- What the sessions share never changes. -/
theorem context_of_run (h : (ofConfig config draws security).run actions = some (s, history)) :
    s.context = (ofConfig config draws security).context := by
  obtain ⟨hconfig, -⟩ := limits_of_run h
  rw [context, hconfig]
  rfl

/-- The sessions are apart after every run. -/
theorem isolated_of_run (h : (ofConfig config draws security).run actions = some (s, history)) :
    Isolated (ofConfig config draws security).context
      (fun c => (ofConfig config draws security).script c actions) history s := by
  have hrun : (ofConfig config draws security).run actions = some (s, history) ∧
      Isolated (ofConfig config draws security).context
        (fun c => (ofConfig config draws security).script c actions) history s := by
    refine run_invariant (P := fun actions history s =>
      (ofConfig config draws security).run actions = some (s, history) ∧
        Isolated (ofConfig config draws security).context
          (fun c => (ofConfig config draws security).script c actions) history s) ?_ ?_ h
    · exact ⟨rfl, nofun, fun _ _ => ⟨rfl, rfl⟩⟩
    · rintro actions history s a s' more ⟨hrun, hs⟩ hact
      have hnext := hs.act (accounted_of_run hrun) (context_of_run hrun) hact
        fun c => script_append_singleton (c := c) hrun
      exact ⟨run_append_singleton hrun hact, hnext⟩
  exact hrun.2

/-- The session of a connection is what it is alone: its script takes it through the same effects to
    the same end, under its own id or any other.  What it sends is what it received itself. -/
structure GoesAlone (ctx : Session.Context) (signals : List Session.Signal)
    (history : List Effect) (s : Server) (c : Nat) (id : ConnectionId) : Prop where
  alone : ∃ peer session,
    (Session.start ctx id peer).run ctx signals = some (session, sessionEffects c history) ∧
    Keeps s.sessions c session ∧
    Session.reported (sessionEffects c history) = session.stage.farewell ∧
    ∀ id' peer', ∃ effects', (Session.start ctx id' peer').run ctx signals =
        some (session.rename id' peer', effects') ∧
      effects'.map Session.Effect.unnamed =
        (sessionEffects c history).map Session.Effect.unnamed
  echoes : Session.sentBytes (sessionEffects c history) <+: Session.receivedBytes signals

theorem Isolated.goesAlone (h : Isolated ctx told history s) {c : Nat} {id : ConnectionId}
    (hc : (c, id) ∈ started history) : GoesAlone ctx (told c) history s c id := by
  obtain ⟨peer, session, hrun, hkept⟩ := h.alone (c, id) hc
  have hbalanced := Session.balanced_of_run hrun
  exact ⟨⟨peer, session, hrun, hkept, Session.reported_of_run hrun,
    fun id' peer' => Session.exists_run_rename hrun id' peer'⟩, hbalanced.sent_prefix⟩

/-- What two sessions have in common that do the same under different names. -/
structure SameBut (first later : List Session.Effect) : Prop where
  effects : first.map Session.Effect.unnamed = later.map Session.Effect.unnamed
  sent : Session.sentBytes first = Session.sentBytes later
  reported : Session.reported first = Session.reported later

/-- Two sessions that are told the same do the same, but for their names, wherever they are. -/
theorem GoesAlone.sameBut {signals : List Session.Signal} {history₂ : List Effect}
    {s₂ : Server} {c c₂ : Nat} {id id₂ : ConnectionId} (h : GoesAlone ctx signals history s c id)
    (h₂ : GoesAlone ctx signals history₂ s₂ c₂ id₂) :
    SameBut (sessionEffects c history) (sessionEffects c₂ history₂) := by
  obtain ⟨peer, session, -, -, hreported, hrename⟩ := h.alone
  obtain ⟨peer₂, session₂, hrun₂, -, hreported₂, -⟩ := h₂.alone
  -- the first session under the names of the second one is the second one
  obtain ⟨effects', hrun, hnames⟩ := hrename id₂ peer₂
  obtain ⟨hsession, rfl⟩ := Prod.mk.inj (Option.some.inj (hrun.symm.trans hrun₂))
  refine ⟨hnames.symm, ?_, ?_⟩
  · rw [← Session.sentBytes_map_unnamed, ← hnames, Session.sentBytes_map_unnamed]
  · rw [hreported, hreported₂, ← hsession]
    rfl

/-- How the sessions of a run keep out of each other's way. -/
structure GoApart (config : Config) (draws : Nat → ConnectionId) (security : Security)
    (actions : List Action) (history : List Effect) (s : Server) : Prop where
  /-- Each of them does and comes to what it does and comes to alone. -/
  alone : ∀ c id, (c, id) ∈ started history →
    GoesAlone (ofConfig config draws security).context
      ((ofConfig config draws security).script c actions) history s c id
  /-- A connection without a session is told nothing and does nothing. -/
  silent : ∀ c, c ∉ (started history).map Prod.fst →
    (ofConfig config draws security).script c actions = [] ∧ sessionEffects c history = []
  /-- Each finds its id and its slot as it left them. -/
  faultless : ∀ r ∈ Effect.records history, Occupancy.isFault r = false
  /-- In any two runs, of any two servers whose sessions share the same settings, what is told the
      same does the same. -/
  same : ∀ config₂ draws₂ security₂ actions₂ s₂ history₂,
    (ofConfig config₂ draws₂ security₂).context = (ofConfig config draws security).context →
    (ofConfig config₂ draws₂ security₂).run actions₂ = some (s₂, history₂) →
    ∀ c id c₂ id₂, (c, id) ∈ started history → (c₂, id₂) ∈ started history₂ →
      (ofConfig config₂ draws₂ security₂).script c₂ actions₂ =
        (ofConfig config draws security).script c actions →
      SameBut (sessionEffects c history) (sessionEffects c₂ history₂)

/-- Whatever the sessions of a server are told and in whatever order, and whatever ids they get,
    each of them does and comes to what it does and comes to alone on its own script, sends nothing
    but what it received itself, and finds its id and its slot as it left them.  A connection
    without a session is told nothing and does nothing.  So the bytes that a session sends and its
    outcome are the same in any two runs that give it the same script, of any two servers whose
    sessions share the same settings. -/
theorem goesAlone_of_run (config : Config) (draws : Nat → ConnectionId) (security : Security)
    (actions : List Action) (s : Server) (history : List Effect)
    (h : (ofConfig config draws security).run actions = some (s, history)) :
    GoApart config draws security actions history s := by
  have hisolated := isolated_of_run h
  constructor
  case alone => exact fun c id hc => hisolated.goesAlone hc
  case silent => exact hisolated.silent
  case faultless => exact (accounted_of_run h).faultless
  case same =>
    intro config₂ draws₂ security₂ actions₂ s₂ history₂ hcontext h₂ c id c₂ id₂ hc hc₂ hscript
    have halone₂ := (isolated_of_run h₂).goesAlone hc₂
    rw [hcontext, hscript] at halone₂
    exact (hisolated.goesAlone hc).sameBut halone₂

end Runs

/-- A registry whose second draw collides with its first one. -/
def collidingDraws (n : Nat) : ConnectionId := ⟨[5, 5, 6].getD n 0⟩

/-- Two clients that send one byte each, by turns.  The first one gets its byte back, the second one
    is given up while its reply is written. -/
def byTurns : List Action :=
  twoClients ++ [.event (.session 1 .go), .event (.session 0 .go), .event (.session 1 .go),
    .event (.session 1 (.handshake (.ok ()))), .event (.session 0 (.read (.ok [97]))),
    .event (.session 1 .go), .event (.session 0 .go), .event (.session 1 (.read (.ok [98]))),
    .event (.session 0 .go), .event (.session 1 .go), .event (.session 0 (.write (.ok 1))),
    .event (.session 1 .go), .shutdown .plain]

/-- The first session would have sent the same under another id and without the second one. -/
theorem goesAlone_of_run_byTurns :
    ∃ s history, (ofConfig (Config.default 2) collidingDraws).run byTurns = some (s, history) ∧
      started history = [(0, ⟨5⟩), (1, ⟨6⟩)] ∧
      Session.sentBytes (sessionEffects 0 history) = [97] ∧
      ∃ session effects, (Session.start {} ⟨9⟩ none).run {}
          [.go, .go, .handshake (.ok ()), .go, .read (.ok [97]), .go, .go, .write (.ok 1),
            .abandon] = some (session, effects) ∧
        Session.sentBytes effects = [97] := by
  have hout : ((ofConfig (Config.default 2) collidingDraws).run byTurns).map (fun out =>
      (started out.2, Session.sentBytes (sessionEffects 0 out.2))) =
      some ([(0, ⟨5⟩), (1, ⟨6⟩)], [97]) := by decide
  obtain ⟨⟨s, history⟩, hrun, hout⟩ := Option.map_eq_some_iff.1 hout
  obtain ⟨hstarted, hsent⟩ := Prod.mk.inj hout
  have hapart := goesAlone_of_run _ _ _ _ _ _ hrun
  obtain ⟨_, session, -, -, -, hrename⟩ := (hapart.alone 0 ⟨5⟩ (by rw [hstarted]; decide)).alone
  obtain ⟨effects, hrun', hnames⟩ := hrename ⟨9⟩ none
  refine ⟨s, history, hrun, hstarted, hsent, session.rename ⟨9⟩ none, effects, hrun', ?_⟩
  rw [← Session.sentBytes_map_unnamed, hnames, Session.sentBytes_map_unnamed, hsent]

end TlsEcho.Server
