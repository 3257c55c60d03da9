import TlsEcho.Proofs.Server.Transition
import TlsEcho.Proofs.Session.Resources

/-!
# The history of a server

What happened to the connections of a server can be read off the actions and effects of a run,
without a look at the server.  A session is open from the effect that starts it to the effect by
which it leaves, and its handshake has succeeded once its connection has been told so.

A fault of the registry or the counter shows up as a record.  No record of the server's own is one
of these, only what an effect of a session does to the registry and the counter can be.
-/

namespace TlsEcho.Server

variable {s : Server} {history effects : List Effect}

/-! ## What the history says -/

/-- The sessions that were started, with their connections, the oldest first. -/
def started (history : List Effect) : List (Nat × ConnectionId) :=
  history.filterMap fun
    | .sessionStarted connection id => some (connection, id)
    | _ => none

/-- Whether the session of a connection has left. -/
def hasLeft (history : List Effect) (connection : Nat) : Bool :=
  history.any fun
    | .session c e => c = connection && e.isLeft
    | _ => false

/-- The sessions that were started and have not left, with their connections, the oldest first. -/
def openSessions (history : List Effect) : List (Nat × ConnectionId) :=
  (started history).filter fun p => !hasLeft history p.1

/-- Whether a connection has been told that its handshake succeeded. -/
def shookHands (actions : List Action) (connection : Nat) : Bool :=
  actions.any fun
    | .event (.session c signal) => c = connection && signal.isHandshake
    | _ => false

@[simp] theorem started_append (a b : List Effect) : started (a ++ b) = started a ++ started b := by
  simp [started]

@[simp] theorem hasLeft_append (a b : List Effect) (c : Nat) :
    hasLeft (a ++ b) c = (hasLeft a c || hasLeft b c) := by
  simp [hasLeft]

@[simp] theorem records_append (a b : List Effect) :
    Effect.records (a ++ b) = Effect.records a ++ Effect.records b := by
  simp [Effect.records]

/-! ## Effects of no account -/

/-- Whether an effect is of no account: it starts no session, none leaves, and no fault is
    reported. -/
def Effect.isQuiet : Effect → Bool
  | .sessionStarted .. => false
  | .session _ e => !e.isLeft
  | .log r => !Occupancy.isFault r
  | _ => true

/-- By effects of no account nobody leaves. -/
theorem hasLeft_of_quiet (h : effects.all Effect.isQuiet = true) (c : Nat) :
    hasLeft effects c = false := by
  refine List.any_eq_false.2 fun e he => ?_
  have := List.all_eq_true.1 h e he
  cases e <;> simp_all [Effect.isQuiet]

/-- Effects of no account change nothing about who is open. -/
theorem openSessions_append_quiet (h : effects.all Effect.isQuiet = true) :
    openSessions (history ++ effects) = openSessions history := by
  have hs : started effects = [] := by
    refine List.filterMap_eq_nil_iff.2 fun e he => ?_
    have := List.all_eq_true.1 h e he
    cases e <;> simp_all [Effect.isQuiet]
  simp [openSessions, hs, hasLeft_of_quiet h]

/-- No record among effects of no account reports a fault. -/
theorem isFault_of_quiet (h : effects.all Effect.isQuiet = true) {r : Log.Record}
    (hr : r ∈ Effect.records effects) : Occupancy.isFault r = false := by
  obtain ⟨e, he, her⟩ := List.mem_filterMap.1 hr
  have := List.all_eq_true.1 h e he
  cases e <;> simp_all [Effect.isQuiet]

/-- Records that report no fault are of no account. -/
theorem isQuiet_log {log : List Log.Record} (h : ∀ r ∈ log, Occupancy.isFault r = false) :
    (log.map Effect.log).all Effect.isQuiet = true := by
  simpa [Effect.isQuiet] using h

/-- The end of the accept loop only refuses the connections that wait. -/
theorem isQuiet_endLoop (s : Server) (r : Running) (how : LoopEnd) :
    (s.endLoop r how).2.all Effect.isQuiet = true := by
  simp [Effect.isQuiet]

/-! ## The effects of a session -/

/-- The effects of a session let its own connection leave, if it is over, and no other. -/
theorem hasLeft_session {c c' : Nat} {log : List Log.Record}
    {emitted : List Session.Effect} :
    hasLeft (log.map Effect.log ++ emitted.map (Effect.session c)) c' =
      (decide (c = c') && emitted.any Session.Effect.isLeft) := by
  -- the records that come first let nobody leave
  have hlog : hasLeft (log.map Effect.log) c' = false := by simp [hasLeft]
  rw [hasLeft_append, hlog, Bool.false_or]
  induction emitted with
  | nil => simp [hasLeft]
  | cons e rest ih =>
    simp only [hasLeft, List.map_cons, List.any_cons, Bool.and_or_distrib_left] at ih ⊢
    rw [ih]

/-- The effects of a session take it from the open ones if it leaves, and start no other. -/
theorem openSessions_session {c : Nat} {log : List Log.Record}
    {emitted : List Session.Effect} :
    openSessions (history ++ (log.map Effect.log ++ emitted.map (Effect.session c))) =
      if emitted.any Session.Effect.isLeft then
        (openSessions history).filter fun p => decide (p.1 ≠ c)
      else openSessions history := by
  have hs : started (log.map Effect.log ++ emitted.map (Effect.session c)) = [] := by
    simp [started, List.filterMap_map]
  unfold openSessions
  rw [started_append, hs, List.append_nil]
  split
  · rename_i hl
    rw [List.filter_filter]
    refine List.filter_congr fun p _ => ?_
    rw [hasLeft_append, hasLeft_session, hl]
    by_cases hp : c = p.1 <;> simp [hp, Ne.symm]
  · rename_i hl
    refine List.filter_congr fun p _ => ?_
    rw [hasLeft_append, hasLeft_session, eq_false_of_ne_true hl]
    simp

/-- The records of a session are among those that come first already. -/
theorem records_session {c : Nat} {log : List Log.Record} {emitted : List Session.Effect} :
    Effect.records (log.map Effect.log ++ emitted.map (Effect.session c)) = log := by
  have hlog : Effect.records (log.map Effect.log) = log := by
    rw [Effect.records, List.filterMap_map]
    exact List.filterMap_some
  have hsession : Effect.records (emitted.map (Effect.session c)) = [] := by
    rw [Effect.records, List.filterMap_map]
    exact List.filterMap_eq_nil_iff.2 fun _ _ => rfl
  rw [records_append, hlog, hsession, List.append_nil]

/-! ## Records that report no fault

The server's own records, as they stand in the definitions. -/

/-- A claim tells of ids that were drawn again, of nothing worse. -/
theorem isFault_claimLog (before after : Registry) (id : ConnectionId) :
    ∀ r ∈ before.claimLog after id, Occupancy.isFault r = false := by
  unfold Registry.claimLog
  simp only
  split <;> simp

theorem isFault_checkLog (c : Admission.Controller) (live : Nat) (now : Instant) :
    ∀ r ∈ c.checkLog live now, Occupancy.isFault r = false := by
  unfold Admission.Controller.checkLog
  split <;> simp

theorem isFault_resumeLog (c : Admission.Controller) :
    ∀ r ∈ c.resumeLog, Occupancy.isFault r = false := by
  unfold Admission.Controller.resumeLog
  split <;> simp

/-- What is logged while credentials are loaded is no fault of the registry or the counter. -/
theorem isFault_loadTransport {files : Files} {log : List Log.Record}
    (h : s.loadTransport files = .ok log) : ∀ r ∈ log, Occupancy.isFault r = false := by
  unfold loadTransport at h
  split at h
  · obtain rfl := Except.ok.inj h
    simp
  · simp only [Except.map] at h
    split at h
    · exact nomatch h
    · obtain rfl := Except.ok.inj h
      simp [Credentials.loadLog]

theorem isFault_startLog (p : WorkerPool) :
    ∀ r ∈ p.startLog, Occupancy.isFault r = false := by
  unfold WorkerPool.startLog
  split <;> simp

theorem isFault_stopLog (p : WorkerPool) (context : CallContext) :
    ∀ r ∈ p.stopLog context, Occupancy.isFault r = false := by
  unfold WorkerPool.stopLog
  split
  · cases context <;> simp
  · simp

/-- A start reports no fault, whether it succeeds or fails. -/
theorem isFault_start (s : Server) (host : Host) :
    ∀ r ∈ (s.start host).2.2, Occupancy.isFault r = false := by
  unfold start
  split
  · simp
  · split
    · simp
    · rename_i hloading
      have hload := isFault_loadTransport hloading
      split
      · exact hload
      · have hstart := isFault_startLog s.pool
        split
        · have hstop := fun pool : WorkerPool => isFault_stopLog pool .plain
          simp only [List.mem_append]
          exact fun r hr => hr.elim (Or.elim · (hload r) (hstart r)) (hstop _ r)
        · have hresume := isFault_resumeLog s.controller
          simp only [List.mem_append, List.mem_singleton]
          rintro r ((hr | hr) | rfl)
          · exact hr.elim (hload r) (hstart r)
          · exact hresume r hr
          · simp [listeningRecord]

/-- A shutdown reports none of its own either.  What the sessions that it drops report are their
    effects. -/
theorem isFault_shutdown (s : Server) (context : CallContext) :
    ∀ r ∈ (s.shutdown context).2.2, Occupancy.isFault r = false := by
  unfold shutdown
  split
  · simp
  · simp only [List.mem_append, List.mem_singleton]
    rintro r ((rfl | hr) | rfl)
    · simp
    · exact isFault_stopLog _ _ r hr
    · simp

end TlsEcho.Server
