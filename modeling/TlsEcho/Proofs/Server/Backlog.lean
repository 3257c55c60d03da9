import TlsEcho.Proofs.Server.Overflow
import TlsEcho.Proofs.Server.Accounting

/-!
# From the backlog to the sessions

The connections that clients make are numbered in the order in which they enter the backlog.  A
step hands the first one of those that wait to a session, or leaves all of them waiting, or refuses
all of them (`handed_step`), so that the sessions of a run are created in the order of the backlog
and no connection is lost or served twice.

The id for the next connection is drawn ahead and outlives the accepts that are given up.  A loop
has one at hand whenever an accept is outstanding (`Sound.armed`), and each accept that ends takes
one with it, which is the balance of `candidates_step`.
-/

namespace TlsEcho.Server

variable {s s' : Server} {r : Running} {e : Event} {a : Action} {actions : List Action}
  {history effects more : List Effect}

/-! ## What a history counts -/

/-- The connections that were closed without a session, in order. -/
def refused (history : List Effect) : List Nat :=
  history.filterMap fun
    | .refused connection => some connection
    | _ => none

/-- How many candidates were drawn, or are being drawn. -/
def spawned (history : List Effect) : Nat :=
  history.countP fun
    | .candidateSpawned => true
    | _ => false

/-- How many accepts have ended, with a connection or by a failure. -/
def acceptsEnded (history : List Effect) : Nat :=
  history.countP fun
    | .acceptEnded _ => true
    | _ => false

/-- How many connections were made. -/
def connects (actions : List Action) : Nat :=
  actions.countP fun
    | .event (.connect _) => true
    | _ => false

/-- How many accepts were given up because the number of live connections moved. -/
def acceptsCancelled (actions : List Action) : Nat :=
  actions.countP fun
    | .event .liveChanged => true
    | _ => false

/-- Whether an accept is outstanding. -/
def isAccepting (s : Server) : Bool :=
  s.running.any fun r => r.loop.stage = .accepting

/-- How many accepts were begun in a run. -/
def acceptsBegun (s : Server) : List Action → Nat
  | [] => 0
  | a :: rest =>
    match s.act a with
    | none => 0
    | some (s', _) => (!s.isAccepting && s'.isAccepting).toNat + s'.acceptsBegun rest

/-- Whether there is a candidate for the next accept.  One that an accepted connection waits for is
    not for the next. -/
def hasCandidate (s : Server) : Bool :=
  s.running.any fun r => r.loop.candidate.isSome && r.loop.admitted?.isNone

@[simp] theorem refused_append (a b : List Effect) : refused (a ++ b) = refused a ++ refused b := by
  simp [refused]

@[simp] theorem spawned_append (a b : List Effect) : spawned (a ++ b) = spawned a + spawned b := by
  simp [spawned]

@[simp] theorem acceptsEnded_append (a b : List Effect) :
    acceptsEnded (a ++ b) = acceptsEnded a + acceptsEnded b := by
  simp [acceptsEnded]

@[simp] theorem connects_append (a b : List Action) :
    connects (a ++ b) = connects a + connects b := by
  simp [connects]

@[simp] theorem acceptsCancelled_append (a b : List Action) :
    acceptsCancelled (a ++ b) = acceptsCancelled a + acceptsCancelled b := by
  simp [acceptsCancelled]

@[simp] theorem counts_log (log : List Log.Record) :
    started (log.map Effect.log) = [] ∧ refused (log.map Effect.log) = [] ∧
      spawned (log.map Effect.log) = 0 ∧ acceptsEnded (log.map Effect.log) = 0 := by
  simp [started, refused, spawned, acceptsEnded, List.filterMap_map, List.countP_map,
    Function.comp_def]

@[simp] theorem counts_session (c : Nat) (emitted : List Session.Effect) :
    started (emitted.map (Effect.session c)) = [] ∧ refused (emitted.map (Effect.session c)) = [] ∧
      spawned (emitted.map (Effect.session c)) = 0 ∧
      acceptsEnded (emitted.map (Effect.session c)) = 0 := by
  simp [started, refused, spawned, acceptsEnded, List.filterMap_map, List.countP_map,
    Function.comp_def]

@[simp] theorem counts_refused (l : List Incoming) :
    started (l.map fun c => .refused c.connection) = [] ∧
      refused (l.map fun c => .refused c.connection) = l.map Incoming.connection ∧
      spawned (l.map fun c => .refused c.connection) = 0 ∧
      acceptsEnded (l.map fun c => .refused c.connection) = 0 := by
  simp [started, refused, spawned, acceptsEnded, List.filterMap_map, List.countP_map,
    Function.comp_def]

@[simp] theorem counts_sessionStarted (c : Nat) (id : ConnectionId) :
    started [.sessionStarted c id] = [(c, id)] ∧ refused [.sessionStarted c id] = [] ∧
      spawned [.sessionStarted c id] = 0 ∧ acceptsEnded [.sessionStarted c id] = 0 :=
  ⟨rfl, rfl, rfl, rfl⟩

/-! ## A step -/

/-- What is handed on, refused or left waiting by a step has waited before, or was made by it. -/
theorem handed_step (ht : Transition s e s' more) :
    (started more).map Prod.fst ++ refused more ++ s'.waiting =
        s.waiting ++ List.range' s.connections (connects [.event e]) ∧
      s'.connections = s.connections + connects [.event e] := by
  cases ht with
  | session hstep =>
    obtain ⟨_, _, _, -, -, rfl, rfl⟩ := stepSession_eq_some.1 hstep
    simp [connects, waiting]
  | connect hr => simp [started, refused, connects, waiting, hr]
  | openSession hr hst =>
    -- the connection that has been accepted is the first one of those that wait
    exact ⟨by simp [waiting, hr, hst, connects, AcceptLoop.admitted?], rfl⟩
  | overflow hr | missCandidate hr | stop hr | collide hr =>
    -- the end of the loop refuses everybody who waits
    exact ⟨by simp [waiting, hr, connects, AcceptLoop.admitted?], rfl⟩
  | coolDown hr hst | resume hr hst =>
    exact ⟨by simp [waiting, hr, hst, connects, AcceptLoop.admitted?], rfl⟩
  | accept hr hst hb =>
    exact ⟨by simp [started, refused, waiting, hr, hst, hb, connects, AcceptLoop.admitted?], rfl⟩
  | drawStray | advance => exact ⟨by simp [started, refused, waiting, connects], rfl⟩
  | draw hr | drawFails hr | signalStop hr =>
    exact ⟨by simp [started, refused, waiting, hr, connects, AcceptLoop.admitted?], rfl⟩
  | subscribe hr hst | permit hr hst | coolOn hr hst | catchUp hr hst | keepCandidate hr hst
  | spawnCandidate hr hst | liveChanged hr hst | acceptFails hr hst | wakeUp hr hst
  | retry hr hst =>
    -- nobody is being admitted before these steps or after them
    exact ⟨by simp [started, refused, waiting, hr, hst, connects, AcceptLoop.admitted?], rfl⟩

/-- Only a loop that has not ended starts sessions. -/
theorem loopEnd?_of_started (ht : Transition s e s' more) (hm : started more ≠ []) :
    s.loopEnd? = none := by
  cases ht with
  | session hstep =>
    obtain ⟨_, _, _, -, -, -, rfl⟩ := stepSession_eq_some.1 hstep
    simp at hm
  | openSession hr hst => simp [loopEnd?, hr, AcceptLoop.ending?, hst]
  | _ =>
    -- no other step creates a session
    simp [started] at hm

/-- A loop that has ended stays as it ended. -/
theorem loopEnd?_step (ht : Transition s e s' more) {how : LoopEnd} (h : s.loopEnd? = some how) :
    s'.loopEnd? = some how := by
  cases ht with
  | session hstep =>
    obtain ⟨_, _, _, -, -, rfl, -⟩ := stepSession_eq_some.1 hstep
    exact h
  | drawStray | advance => exact h
  | connect hr | draw hr | drawFails hr | signalStop hr =>
    simpa [loopEnd?, AcceptLoop.ending?, hr] using h
  | stop hr hparked =>
    -- a loop that has ended does not wait
    unfold AcceptLoop.isParked at hparked
    split at hparked <;> simp_all [loopEnd?, AcceptLoop.ending?]
  | subscribe hr hst | permit hr hst | coolDown hr hst | coolOn hr hst | overflow hr hst
  | resume hr hst | catchUp hr hst | keepCandidate hr hst | spawnCandidate hr hst
  | openSession hr hst | collide hr hst | missCandidate hr hst | accept hr hst | acceptFails hr hst
  | liveChanged hr hst | wakeUp hr hst | retry hr hst =>
    simp [loopEnd?, AcceptLoop.ending?, hr, hst] at h

/-- Only the end of the loop refuses a connection. -/
theorem refused_eq_nil (ht : Transition s e s' more) (hend : s'.loopEnd? = none) :
    refused more = [] := by
  cases ht with
  | session hstep =>
    obtain ⟨_, _, _, -, -, -, rfl⟩ := stepSession_eq_some.1 hstep
    simp
  | overflow | missCandidate | stop | collide => simp [loopEnd?, AcceptLoop.ending?] at hend
  | openSession => simp
  | coolDown | resume => exact (counts_log _).2.1
  | _ => rfl

/-! ## Runs that nothing breaks off -/

/-- Whether the loop asks admission next. -/
def isChecking (s : Server) : Bool := s.running.any fun r => r.loop.stage = .checking

/-- Whether an action lets the task that draws a candidate fail, tells the loop to stop, or asks
    admission for a cooldown that has no end. -/
def breaksOff (s : Server) : Action → Bool
  | .event .drawFails | .event .signalStop | .shutdown _ => true
  | .event .proceed => s.isChecking &&
      match (s.controller.check s.liveCount s.clock).1 with
      | .error _ => true
      | .ok _ => false
  | _ => false

/-- Whether none of these happens in a run. -/
def isUnbroken (s : Server) : List Action → Bool
  | [] => true
  | a :: rest => !s.breaksOff a &&
      match s.act a with
      | none => true
      | some (s', _) => s'.isUnbroken rest

/-- What holds of a loop in such a run.  It ends only if the collisions of an id cannot be
    counted. -/
structure Sound (r : Running) : Prop where
  unrequested : r.stopRequests = 0
  unseen : r.loop.stopWatcher.seen = 0
  candidate : r.loop.candidate ≠ some .failed
  armed : r.loop.stage = .accepting ∨ r.loop.admitted?.isSome → r.loop.candidate.isSome
  ending : r.loop.ending? = none ∨ r.loop.ending? = some (.failed .collisions)

/-- A step that breaks nothing off keeps a sound loop sound. -/
theorem sound_step (h : Sound r) (hr : s.running = some r) (ht : Transition s e s' more)
    (hb : s.breaksOff (.event e) = false) : ∃ r', s'.running = some r' ∧ Sound r' := by
  obtain ⟨unrequested, unseen, candidate, armed, ending⟩ := id h
  cases ht with
  | session hstep =>
    obtain ⟨_, _, _, -, -, rfl, -⟩ := stepSession_eq_some.1 hstep
    exact ⟨r, hr, h⟩
  | drawStray | advance => exact ⟨r, hr, h⟩
  | drawFails | signalStop => simp [breaksOff] at hb
  | overflow hr' hst hp hfull hends =>
    -- a check without a verdict breaks the run off
    have hcheck := Admission.Controller.check_eq_error_iff.2 ⟨hp, hfull, hends⟩
    simp [breaksOff, isChecking, hr', hst, hcheck] at hb
  | stop hr' hparked hmissed =>
    obtain rfl := Option.some.inj (hr.symm.trans hr')
    -- there is no request that the loop could have missed
    simp [Admission.Watcher.hasMissed, unseen, unrequested] at hmissed
  | missCandidate hr' hst hc =>
    obtain rfl := Option.some.inj (hr.symm.trans hr')
    exact absurd hc candidate
  | connect hr' hending =>
    obtain rfl := Option.some.inj (hr.symm.trans hr')
    exact ⟨_, rfl, unrequested, unseen, candidate, armed, ending⟩
  | subscribe hr' hst | permit hr' hst | coolDown hr' hst | coolOn hr' hst | resume hr' hst
  | catchUp hr' hst | keepCandidate hr' hst | spawnCandidate hr' hst | openSession hr' hst
  | collide hr' hst | draw hr' hc | accept hr' hst | acceptFails hr' hst | liveChanged hr' hst
  | wakeUp hr' hst | retry hr' hst =>
    obtain rfl := Option.some.inj (hr.symm.trans hr')
    refine ⟨_, rfl, ?_⟩
    constructor <;> simp_all [AcceptLoop.ending?, AcceptLoop.admitted?]

/-- Every accept that ends takes a candidate with it, and nothing else does. -/
theorem candidates_step (h : Sound r) (hr : s.running = some r) (ht : Transition s e s' more)
    (hend : s'.loopEnd? = none ∨ s'.loopEnd? = some (.failed .collisions)) :
    s.hasCandidate.toNat + spawned more = acceptsEnded more + s'.hasCandidate.toNat := by
  cases ht with
  | session hstep =>
    obtain ⟨_, _, _, -, -, rfl, rfl⟩ := stepSession_eq_some.1 hstep
    simp [hasCandidate]
  | drawStray | advance => simp [hasCandidate, spawned, acceptsEnded]
  | overflow | stop | missCandidate => simp [loopEnd?, AcceptLoop.ending?] at hend
  | collide hr' hst =>
    -- the candidate that goes with the loop has been taken by an accept before
    rw [endLoop_effects, (counts_refused _).2.2.1, (counts_refused _).2.2.2]
    simp [hasCandidate, hr', hst, AcceptLoop.admitted?]
  | coolDown hr' hst | resume hr' hst | openSession hr' hst =>
    simp [hasCandidate, hr', hst, AcceptLoop.admitted?]
  | accept hr' hst | acceptFails hr' hst =>
    obtain rfl := Option.some.inj (hr.symm.trans hr')
    -- the accept was outstanding, so there is a candidate for it to take
    have hc := h.armed (.inl hst)
    simp [hasCandidate, spawned, acceptsEnded, hr', hst, hc, AcceptLoop.admitted?]
  | draw hr' hc | drawFails hr' hc =>
    simp [hasCandidate, spawned, acceptsEnded, hr', hc, AcceptLoop.admitted?]
  | connect hr' | signalStop hr' =>
    simp [hasCandidate, spawned, acceptsEnded, hr', AcceptLoop.admitted?]
  | keepCandidate hr' hst hc | spawnCandidate hr' hst hc =>
    simp [hasCandidate, spawned, acceptsEnded, hr', hst, hc, AcceptLoop.admitted?]
  | subscribe hr' hst | permit hr' hst | coolOn hr' hst | catchUp hr' hst | liveChanged hr' hst
  | wakeUp hr' hst | retry hr' hst =>
    simp [hasCandidate, spawned, acceptsEnded, hr', hst, AcceptLoop.admitted?]

/-- An accept that is begun is outstanding until it ends or is given up. -/
theorem accepts_step (ht : Transition s e s' more)
    (hend : s'.loopEnd? = none ∨ s'.loopEnd? = some (.failed .collisions)) :
    s.isAccepting.toNat + (!s.isAccepting && s'.isAccepting).toNat =
      acceptsEnded more + acceptsCancelled [.event e] + s'.isAccepting.toNat := by
  cases ht with
  | session hstep =>
    obtain ⟨_, _, _, -, -, rfl, rfl⟩ := stepSession_eq_some.1 hstep
    simp [isAccepting, acceptsCancelled]
  | drawStray | advance => simp [isAccepting, acceptsCancelled, acceptsEnded]
  | overflow | stop | missCandidate => simp [loopEnd?, AcceptLoop.ending?] at hend
  | coolDown hr' hst | resume hr' hst | openSession hr' hst | collide hr' hst =>
    simp [isAccepting, acceptsCancelled, hr', hst]
  | connect hr' | draw hr' | drawFails hr' | signalStop hr' =>
    simp [isAccepting, acceptsCancelled, acceptsEnded, hr']
  | subscribe hr' hst | permit hr' hst | coolOn hr' hst | catchUp hr' hst
  | keepCandidate hr' hst | spawnCandidate hr' hst | accept hr' hst | acceptFails hr' hst
  | liveChanged hr' hst | wakeUp hr' hst | retry hr' hst =>
    simp [isAccepting, acceptsCancelled, acceptsEnded, hr', hst]

/-- Whether the registry has no id to give: the next draws, as many as a claim can count, are all in
    use. -/
def Exhausted (s : Server) : Prop :=
  ∀ n < Registry.maxCollisions,
    s.occupancy.registry.draws (s.occupancy.registry.drawn + n) ∈ s.occupancy.registry.active

/-- Whether the registry has no id to give at some point of a run. -/
def RunsOut (s : Server) (actions : List Action) : Prop :=
  ∃ before s' past, before <+: actions ∧ s.run before = some (s', past) ∧ s'.Exhausted

/-- A run in which the ids run out is still one when it goes on. -/
theorem RunsOut.append (h : s.RunsOut actions) : s.RunsOut (actions ++ [a]) := by
  obtain ⟨before, s', past, hprefix, hrun⟩ := h
  exact ⟨before, s', past, hprefix.trans (List.prefix_append _ _), hrun⟩

/-- A loop comes to such an end only when there is no id for the connection that it has accepted. -/
theorem exhausted_step (ht : Transition s e s' more)
    (hend : s'.loopEnd? = some (.failed .collisions)) :
    s.loopEnd? = some (.failed .collisions) ∨ s.Exhausted := by
  cases ht with
  | collide hr hst hc hclaim => exact .inr (Registry.mem_active_of_claim_none hclaim)
  | session hstep =>
    obtain ⟨_, _, _, -, -, rfl, -⟩ := stepSession_eq_some.1 hstep
    exact .inl hend
  | drawStray | advance => exact .inl hend
  | connect hr | draw hr | drawFails hr | signalStop hr =>
    exact .inl (by simpa [loopEnd?, AcceptLoop.ending?, hr] using hend)
  | _ => simp [loopEnd?, AcceptLoop.ending?] at hend

/-! ## A run of the accept loop -/

/-- What a run of an accept loop keeps: so many accepts have been begun in it. -/
structure Serving (launched : Server) (begun : Nat) (actions : List Action) (effects : List Effect)
    (s : Server) : Prop where
  run : launched.run actions = some (s, effects)
  loop : ∃ r, s.running = some r ∧ Sound r
  connections : s.connections = launched.connections + connects actions
  handed : (started effects).map Prod.fst ++ refused effects ++ s.waiting =
    List.range' launched.connections (connects actions)
  unrefused : s.loopEnd? = none → refused effects = []
  exhausted : s.loopEnd? = none ∨ launched.RunsOut actions
  candidates : spawned effects = acceptsEnded effects + s.hasCandidate.toNat
  accepts : begun = acceptsEnded effects + acceptsCancelled actions + s.isAccepting.toNat

namespace Serving

variable {launched : Server} {begun : Nat}

theorem step (h : Serving launched begun actions effects s) (hact : s.step e = some (s', more))
    (hb : s.breaksOff (.event e) = false) :
    Serving launched (begun + (!s.isAccepting && s'.isAccepting).toNat) (actions ++ [.event e])
      (effects ++ more) s' := by
  have ht := step_transition hact
  obtain ⟨r, hr, hsound⟩ := h.loop
  obtain ⟨r', hr', hsound'⟩ := sound_step hsound hr ht hb
  have hend' : s'.loopEnd? = none ∨ s'.loopEnd? = some (.failed .collisions) := by
    simpa [Server.loopEnd?, hr'] using hsound'.ending
  obtain ⟨hhanded, hconnections⟩ := handed_step ht
  constructor
  case run => exact run_append_singleton h.run hact
  case loop => exact ⟨r', hr', hsound'⟩
  case connections =>
    rw [hconnections, h.connections, connects_append, Nat.add_assoc]
  case handed =>
    -- once a connection has been refused no session is created any more
    have hcomm : refused effects ++ (started more).map Prod.fst =
        (started more).map Prod.fst ++ refused effects := by
      by_cases hm : started more = []
      · simp [hm]
      · simp [h.unrefused (loopEnd?_of_started ht hm)]
    calc (started (effects ++ more)).map Prod.fst ++ refused (effects ++ more) ++ s'.waiting
        = (started effects).map Prod.fst ++ ((started more).map Prod.fst ++ refused effects) ++
            (refused more ++ s'.waiting) := by simp
      _ = (started effects).map Prod.fst ++ refused effects ++
            ((started more).map Prod.fst ++ refused more ++ s'.waiting) := by
          rw [← hcomm]
          simp
      _ = (started effects).map Prod.fst ++ refused effects ++ s.waiting ++
            List.range' s.connections (connects [.event e]) := by
          rw [hhanded]
          simp
      _ = List.range' launched.connections (connects (actions ++ [.event e])) := by
          rw [h.handed, h.connections, connects_append, List.range'_append_1]
  case unrefused =>
    intro hnone
    have hbefore : s.loopEnd? = none := by
      cases hs : s.loopEnd? with
      | none => rfl
      | some how => exact nomatch hnone.symm.trans (loopEnd?_step ht hs)
    rw [refused_append, h.unrefused hbefore, refused_eq_nil ht hnone, List.append_nil]
  case exhausted =>
    refine hend'.imp_right fun hended => ?_
    obtain hs | hs := exhausted_step ht hended
    · -- the loop had ended before
      have hout := h.exhausted.resolve_left (by simp [hs])
      exact hout.append
    · exact ⟨actions, s, effects, List.prefix_append _ _, h.run, hs⟩
  case candidates =>
    have hcandidates := h.candidates
    have hstep := candidates_step hsound hr ht hend'
    rw [spawned_append, acceptsEnded_append]
    omega
  case accepts =>
    have haccepts := h.accepts
    have hstep := accepts_step ht hend'
    rw [acceptsEnded_append, acceptsCancelled_append]
    omega

/-- A loop goes on serving, whatever happens short of what breaks the run off.  The server runs, so
    that to start it does nothing. -/
theorem act (h : Serving launched begun actions effects s) (hact : s.act a = some (s', more))
    (hb : s.breaksOff a = false) :
    Serving launched (begun + (!s.isAccepting && s'.isAccepting).toNat) (actions ++ [a])
      (effects ++ more) s' := by
  cases a with
  | event e => exact h.step hact hb
  | shutdown context => simp [breaksOff] at hb
  | start host =>
    have hrun := run_append_singleton h.run hact
    obtain ⟨r, hr, -⟩ := h.loop
    obtain ⟨rfl, rfl | ⟨hnone, -⟩ | ⟨hnone, -⟩⟩ := act_start_eq_some hact
    · obtain ⟨-, loop, connections, handed, unrefused, exhausted, candidates, accepts⟩ := h
      refine ⟨hrun, loop, ?_, ?_, ?_, ?_, ?_, ?_⟩
      · simpa [connects] using connections
      · simpa [connects] using handed
      · simpa using unrefused
      · exact exhausted.imp_right RunsOut.append
      · simpa using candidates
      · simpa [acceptsCancelled] using accepts
    · simp [hr] at hnone
    · simp [hr] at hnone

/-- A run that nothing breaks off. -/
theorem of_run (h : Serving launched begun actions effects s) {later : List Action}
    (hu : s.isUnbroken later = true) (hrun : s.run later = some (s', more)) :
    Serving launched (begun + s.acceptsBegun later) (actions ++ later) (effects ++ more) s' := by
  induction later generalizing s begun actions effects more with
  | nil =>
    obtain ⟨rfl, rfl⟩ := hrun
    simpa [acceptsBegun] using h
  | cons a rest ih =>
    obtain ⟨s₁, first, after, hact, hrest, rfl⟩ := run_cons_eq_some.1 hrun
    simp only [isUnbroken, hact, Bool.and_eq_true, Bool.not_eq_true'] at hu
    have hnext := ih (h.act hact hu.1) hu.2 hrest
    simpa [acceptsBegun, hact, Nat.add_assoc] using hnext

/-- A loop that has just been launched has nothing to account for. -/
theorem of_start {before : Server} {host : Host} {log : List Effect}
    (hstopped : before.isRunning = false)
    (hstart : before.act (.start host) = some (launched, log))
    (hruns : launched.isRunning = true) : Serving launched 0 [] [] launched := by
  have hnone : before.running = none := by simpa [isRunning] using hstopped
  obtain ⟨-, rfl | ⟨-, pool, rfl⟩ | ⟨-, pool, address, rfl⟩⟩ := act_start_eq_some hstart
  · simp [hstopped] at hruns
  · simp [isRunning, hnone] at hruns
  · refine ⟨rfl, ⟨_, rfl, ?_⟩, rfl, rfl, fun _ => rfl, .inl rfl, rfl, rfl⟩
    constructor <;> simp [AcceptLoop.admitted?, AcceptLoop.ending?]

/-- A connection that has been accepted gets its id as soon as that is drawn. -/
theorem exists_step_of_admitting (h : Serving launched begun actions effects s) {c : Incoming}
    (hr : s.running = some r) (hst : r.loop.stage = .admitting c) :
    (s.step .draw).isSome ∨ (s.step .proceed).isSome := by
  obtain ⟨r', hr', hsound⟩ := h.loop
  obtain rfl := Option.some.inj (hr.symm.trans hr')
  have harmed : r.loop.candidate.isSome := hsound.armed (.inr (by simp [AcceptLoop.admitted?, hst]))
  obtain ⟨candidate, hc⟩ := Option.isSome_iff_exists.1 harmed
  cases candidate with
  | pending => exact .inl (by simp [Server.step, drawEnds, hr, hc])
  | drawn id => exact .inr (by simp [Server.step, proceed, hr, hst, hc])
  | failed => exact absurd hc hsound.candidate

end Serving

/-- A failed accept leaves the registry, the sessions and the connections that wait as they are. -/
theorem frame_of_acceptFails {reason : String}
    (h : s.step (.acceptFails reason) = some (s', more)) :
    s'.occupancy = s.occupancy ∧ s'.tasks = s.tasks ∧ s'.waiting = s.waiting ∧
      started more = [] := by
  cases step_transition h with
  | acceptFails hr hst =>
    exact ⟨rfl, rfl, by simp [waiting, hr, hst, AcceptLoop.admitted?], rfl⟩

/-- Where the connections, accepts and candidates of an accept loop are after a run from its launch
    on. -/
structure Dispatch (launched : Server) (actions : List Action) (effects : List Effect)
    (s : Server) : Prop where
  /-- The connections that were made are, in the order of the backlog, those handed to a session,
      those refused, and those that wait. -/
  handed : (started effects).map Prod.fst ++ refused effects ++ s.waiting =
    List.range' launched.connections (connects actions)
  /-- No connection is among these twice, and so none has two sessions. -/
  once : ((started effects).map Prod.fst ++ refused effects ++ s.waiting).Nodup
  /-- None is refused unless the registry has run out of ids at some point. -/
  kept : refused effects = [] ∨ launched.RunsOut actions
  /-- A connection that has been accepted and has no session yet is on its way to one. -/
  underway : ∀ r c, s.running = some r → r.loop.stage = .admitting c →
    (s.step .draw).isSome ∨ (s.step .proceed).isSome
  /-- Each accept that has ended has taken a candidate with it, and there is at most one more. -/
  candidates : spawned effects = acceptsEnded effects + s.hasCandidate.toNat
  /-- Each accept that was begun has ended or was given up, but for at most one. -/
  accepts : launched.acceptsBegun actions =
    acceptsEnded effects + acceptsCancelled actions + s.isAccepting.toNat
  /-- An accept that fails claims no id, creates no session and takes nothing from the backlog. -/
  failed : ∀ reason s' more, s.step (.acceptFails reason) = some (s', more) →
    s'.occupancy = s.occupancy ∧ s'.tasks = s.tasks ∧ s'.waiting = s.waiting ∧ started more = []

/-- Whatever happens to an accept loop from its launch on, unless the drawing of a candidate fails,
    a cooldown has no end, or the loop is told to stop: the connections are handed to sessions in
    the order of the backlog, each to one, and wait until then.  At most one accept and one
    candidate are outstanding, and a candidate is drawn for every accept that ends, but not for one
    that is given up. -/
theorem dispatch_of_run (host : Host) (before launched s : Server) (log effects : List Effect)
    (actions : List Action) (hstopped : before.isRunning = false)
    (hstart : before.act (.start host) = some (launched, log))
    (hruns : launched.isRunning = true) (hrun : launched.run actions = some (s, effects))
    (hu : launched.isUnbroken actions = true) : Dispatch launched actions effects s := by
  -- a loop that has just been launched serves, and every action of the run keeps it serving
  have h := (Serving.of_start hstopped hstart hruns).of_run hu hrun
  rw [List.nil_append, List.nil_append, Nat.zero_add] at h
  constructor
  case handed => exact h.handed
  case once =>
    rw [h.handed]
    exact List.nodup_range'
  case kept =>
    exact h.exhausted.imp_left h.unrefused
  case underway => exact fun r c hr hst => h.exists_step_of_admitting hr hst
  case candidates => exact h.candidates
  case accepts => exact h.accepts
  case failed => exact fun reason s' more hstep => frame_of_acceptFails hstep

/-- Of two clients the first one finishes its handshake while the next accept is outstanding, so
    that this accept is given up.  The one after it fails, and the second client is accepted
    later. -/
def interrupted : List Action :=
  [.event (.connect none), .event .proceed, .event .proceed, .event .proceed, .event .draw,
    .event .accept, .event .proceed, .event .proceed, .event .proceed, .event (.session 0 .go),
    .event (.session 0 .go), .event (.session 0 (.handshake (.ok ()))), .event .liveChanged,
    .event (.connect none), .event .proceed, .event .proceed,
    .event (.acceptFails "Connection aborted"), .event .drawStray,
    .event (.advance (.ofSeconds 1)), .event .wake, .event .proceed, .event .proceed, .event .draw,
    .event .accept, .event .proceed]

theorem dispatch_of_run_interrupted :
    ∃ launched log s effects, (ofConfig (Config.default 2) (fun n => ⟨.ofNat n⟩)).act
        (.start { bound := .ok { ip := .v4 127 0 0 1, port := 8443 } }) = some (launched, log) ∧
      launched.run interrupted = some (s, effects) ∧ Dispatch launched interrupted effects s ∧
      started effects = [(0, ⟨0⟩), (1, ⟨2⟩)] ∧ s.waiting = [] := by
  have hview : ((ofConfig (Config.default 2) (fun n => ⟨.ofNat n⟩)).act
      (.start { bound := .ok { ip := .v4 127 0 0 1, port := 8443 } })).map (fun out =>
        (out.1.isRunning, out.1.isUnbroken interrupted,
          (out.1.run interrupted).map fun last => started last.2)) =
      some (true, true, some [(0, ⟨0⟩), (1, ⟨2⟩)]) := by decide
  obtain ⟨⟨launched, log⟩, hstart, hview⟩ := Option.map_eq_some_iff.1 hview
  simp only [Prod.mk.injEq] at hview
  obtain ⟨hruns, hu, hview⟩ := hview
  obtain ⟨⟨s, effects⟩, hrun, hstarted⟩ := Option.map_eq_some_iff.1 hview
  have hdispatch := dispatch_of_run _ _ launched s log effects interrupted rfl hstart hruns hrun hu
  -- two connections were made, and both have a session
  have hhanded := congrArg List.length hdispatch.handed
  simp only at hstarted
  have hnone : refused effects = [] ∧ s.waiting = [] := by
    simpa [hstarted, connects, interrupted] using hhanded
  exact ⟨launched, log, s, effects, hstart, hrun, hdispatch, hstarted, hnone.2⟩

end TlsEcho.Server
