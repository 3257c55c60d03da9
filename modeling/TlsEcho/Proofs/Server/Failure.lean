import TlsEcho.Proofs.Server.Backlog
import TlsEcho.Proofs.Server.Lifecycle

/-!
# Accept loops that fail

An accept loop fails when it goes on from a state in which there is no other way: the check that it
makes has no verdict, the id that it waits for will not come, or the collisions of this id cannot be
counted.  It is `Broken` then.  The failure stays with the server until somebody shuts it down, and
nothing else puts one there (`loopEnd?_act_iff`), so that it can be found in the run (`Failed`).

A shutdown tells the failure to an ordinary thread, which waits for the loop: it may as well fail on
its way to where it would notice that it is to stop.  A task must not wait for the loop, and the
failure is lost.
-/

namespace TlsEcho.Server

variable {s s' start : Server} {e : Event} {a : Action} {actions : List Action}
  {effects history : List Effect} {failure : LoopFailure}

/-! ## How a loop fails -/

/-- Whether the accept loop has no way on but to fail. -/
inductive Broken (s : Server) : LoopFailure → Prop
  | candidate {r c} : s.running = some r → r.loop.stage = .admitting c →
      r.loop.candidate = some .failed → Broken s .candidate
  | overflow {r} : s.running = some r → r.loop.stage = .checking →
      (s.controller.check s.liveCount s.clock).1 = .error {} → Broken s (.overflow {})
  | collisions {r c id} : s.running = some r → r.loop.stage = .admitting c →
      r.loop.candidate = some (.drawn id) → (s.occupancy.registry.claim id).1 = none →
      Broken s .collisions

@[simp] theorem loopEnd?_endLoop (s : Server) (r : Running) (how : LoopEnd) :
    (s.endLoop r how).1.loopEnd? = some how := rfl

/-- A broken loop can go on, and then it has failed. -/
theorem Broken.proceed (h : Broken s failure) :
    ∃ s' effects, s.step .proceed = some (s', effects) ∧ s'.loopEnd? = some (.failed failure) := by
  cases h with
  | @candidate r c hr hst hc =>
    have hstep : s.step .proceed = some (s.endLoop r (.failed .candidate)) := by
      simp [step, hr, Server.proceed, hst, hc]
    exact ⟨_, _, hstep, rfl⟩
  | overflow hr hst hcheck =>
    obtain ⟨s', effects, r', hstep, hr', hends⟩ := proceed_of_checking hr hst
    refine ⟨s', effects, hstep, ?_⟩
    simpa [loopEnd?, hr'] using hends.2 hcheck
  | @collisions r c id hr hst hc hclaim =>
    -- the registry has gone on to draw ids when it gives up
    have hopen : (s.openSession r c id).1.loopEnd? = some (.failed .collisions) := by
      unfold openSession
      split <;> simp_all
    have hstep : s.step .proceed = some (s.openSession r c id) := by
      simp [step, hr, Server.proceed, hst, hc]
    exact ⟨_, _, hstep, hopen⟩

/-- A loop that has not ended fails by going on when it is broken, and in no other step. -/
theorem broken_of_step (ht : Transition s e s' effects) (hbefore : s.loopEnd? = none)
    (h : s'.loopEnd? = some (.failed failure)) : e = .proceed ∧ Broken s failure := by
  have hnot : s.loopEnd? ≠ some (.failed failure) := by simp [hbefore]
  cases ht with
  | overflow hr hst hp hfull hends =>
    obtain rfl := LoopEnd.failed.inj (Option.some.inj h)
    exact ⟨rfl, .overflow hr hst (Admission.Controller.check_eq_error_iff.2 ⟨hp, hfull, hends⟩)⟩
  | collide hr hst hc hclaim =>
    obtain rfl := LoopEnd.failed.inj (Option.some.inj h)
    exact ⟨rfl, .collisions hr hst hc (by rw [hclaim])⟩
  | missCandidate hr hst hc =>
    obtain rfl := LoopEnd.failed.inj (Option.some.inj h)
    exact ⟨rfl, .candidate hr hst hc⟩
  | session hstep =>
    obtain ⟨_, _, _, -, -, rfl, -⟩ := stepSession_eq_some.1 hstep
    exact absurd h hnot
  | drawStray | advance => exact absurd h hnot
  | connect hr | draw hr | drawFails hr | signalStop hr =>
    -- the loop stays in its stage
    have hsame : s.loopEnd? = some (.failed failure) := by
      simpa [loopEnd?, AcceptLoop.ending?, hr] using h
    exact absurd hsame hnot
  | stop | subscribe | permit | coolDown | coolOn | resume | catchUp | keepCandidate
  | spawnCandidate | openSession | accept | acceptFails | liveChanged | wakeUp | retry =>
    -- the loop enters another stage, or ends as it was told to
    simp [loopEnd?, AcceptLoop.ending?] at h

/-- Whether the accept loop has failed in a run, and nobody has shut the server down since. -/
def Failed (start : Server) (actions : List Action) (failure : LoopFailure) : Prop :=
  ∃ before after s past, actions = before ++ .event .proceed :: after ∧
    start.run before = some (s, past) ∧ s.Broken failure ∧
    ∀ context, .shutdown context ∉ after

/-! ## How long the failure stays -/

/-- After an action the loop has failed if it had failed before and the action is no shutdown, or if
    it was broken and goes on. -/
theorem loopEnd?_act_iff (hact : s.act a = some (s', effects)) :
    s'.loopEnd? = some (.failed failure) ↔
      (s.loopEnd? = some (.failed failure) ∧ ∀ context, a ≠ .shutdown context) ∨
      (a = .event .proceed ∧ s.Broken failure) := by
  constructor
  · intro h
    cases a with
    | event e =>
      have ht := step_transition hact
      cases hbefore : s.loopEnd? with
      | none =>
        obtain ⟨rfl, hbroken⟩ := broken_of_step ht hbefore h
        exact .inr ⟨rfl, hbroken⟩
      | some how =>
        -- a loop that has ended stays as it is
        have hsame := (loopEnd?_step ht hbefore).symm.trans h
        exact .inl ⟨hsame, nofun⟩
    | start host =>
      obtain ⟨-, rfl | ⟨-, pool, rfl⟩ | ⟨-, pool, address, rfl⟩⟩ := act_start_eq_some hact
      · exact .inl ⟨h, nofun⟩
      · exact .inl ⟨h, nofun⟩
      · -- the loop that was launched has not begun yet
        exact nomatch h
    | shutdown context =>
      have hnone : s'.running = none := by
        obtain ⟨hr, rfl, -⟩ | ⟨r, -, rfl, -⟩ := act_shutdown_eq_some hact
        · exact hr
        · exact stopped_running s r context
      simp [loopEnd?, hnone] at h
  · rintro (⟨h, hstays⟩ | ⟨rfl, hbroken⟩)
    · cases a with
      | event e => exact loopEnd?_step (step_transition hact) h
      | start host =>
        obtain ⟨-, rfl | ⟨-, pool, rfl⟩ | ⟨hnone, pool, address, rfl⟩⟩ := act_start_eq_some hact
        · exact h
        · exact h
        · simp [loopEnd?, hnone] at h
      | shutdown context => exact absurd rfl (hstays context)
    · obtain ⟨after, more, hstep, hfailed⟩ := hbroken.proceed
      obtain ⟨rfl, -⟩ := Prod.mk.inj (Option.some.inj (hact.symm.trans hstep))
      exact hfailed

/-- A run that goes on by an action has a failure in it if it had one before and the action is no
    shutdown, or if the action lets a broken loop go on. -/
theorem failed_append_iff (h : start.run actions = some (s, history)) :
    start.Failed (actions ++ [a]) failure ↔
      (start.Failed actions failure ∧ ∀ context, a ≠ .shutdown context) ∨
      (a = .event .proceed ∧ s.Broken failure) := by
  constructor
  · rintro ⟨before, after, s₁, past, heq, hrun, hbroken, hstays⟩
    -- either the loop fails in the last action, or this one comes after the failure
    obtain rfl | ⟨after, last, rfl⟩ := List.eq_nil_or_concat after
    · obtain ⟨rfl, rfl⟩ := List.append_singleton_inj.1 heq
      obtain ⟨rfl, -⟩ := Prod.mk.inj (Option.some.inj (h.symm.trans hrun))
      exact .inr ⟨rfl, hbroken⟩
    · rw [List.concat_eq_append, ← List.cons_append, ← List.append_assoc] at heq
      obtain ⟨rfl, rfl⟩ := List.append_singleton_inj.1 heq
      refine .inl ⟨⟨before, after, s₁, past, rfl, hrun, hbroken, fun context hmem => ?_⟩, ?_⟩
      · exact hstays context (by simp [hmem])
      · rintro context rfl
        exact hstays context (by simp)
  · rintro (⟨⟨before, after, s₁, past, rfl, hrun, hbroken, hstays⟩, ha⟩ | ⟨rfl, hbroken⟩)
    · refine ⟨before, after ++ [a], s₁, past, by simp, hrun, hbroken, fun context hmem => ?_⟩
      obtain hmem | hmem := List.mem_append.1 hmem
      · exact hstays context hmem
      · exact ha context (List.mem_singleton.1 hmem).symm
    · exact ⟨actions, [], s, history, rfl, h, hbroken, by simp⟩

/-- The failure of the loop of a server is the one in its run. -/
theorem loopEnd?_eq_failed_iff {config : Config} {draws : Nat → ConnectionId} {security : Security}
    (h : (ofConfig config draws security).run actions = some (s, history)) :
    s.loopEnd? = some (.failed failure) ↔
      (ofConfig config draws security).Failed actions failure := by
  refine (run_invariant (P := fun actions history s =>
    (ofConfig config draws security).run actions = some (s, history) ∧
      (s.loopEnd? = some (.failed failure) ↔
        (ofConfig config draws security).Failed actions failure)) ?_ ?_ h).2
  · refine ⟨rfl, nofun, ?_⟩
    rintro ⟨before, after, -, -, heq, -⟩
    exact absurd heq.symm (by simp)
  · rintro actions history s a s' more ⟨hrun, hfailed⟩ hact
    refine ⟨run_append_singleton hrun hact, ?_⟩
    rw [loopEnd?_act_iff hact, failed_append_iff hrun, hfailed]

/-! ## What a shutdown tells -/

/-- An ordinary thread is told a failure exactly if the loop has ended in it. -/
theorem shutdownAnswer_eq_error_iff {how : LoopEnd} :
    shutdownAnswer .plain how = .error (.acceptLoop failure) ↔ how = .failed failure := by
  cases how <;> simp [shutdownAnswer]

/-- It is told of none exactly if the loop has not ended in any. -/
theorem shutdownAnswer_eq_ok_iff {how : LoopEnd} :
    shutdownAnswer .plain how = .ok () ↔ ∀ failure, how ≠ .failed failure := by
  cases how <;> simp [shutdownAnswer]

/-- Nothing is wrong with a server that does not run. -/
theorem shutdown_of_stopped (hr : s.running = none) (context : CallContext) :
    (s.shutdown context).1 = .ok () := by
  simp [shutdown, hr]

/-- A shutdown leaves neither an accept loop nor workers. -/
theorem shutdown_running_pool (h : Steady s) (context : CallContext) :
    (s.shutdown context).2.1.running = none ∧
      (s.shutdown context).2.1.pool.isRunning = false := by
  cases hr : s.running with
  | none =>
    have hpool : s.pool.isRunning = false := by simp [h.pool, isRunning, hr]
    simp [shutdown, hr, hpool]
  | some r =>
    have hafter : (s.shutdown context).2.1 = (s.stopped r context).1 := by simp [shutdown, hr]
    rw [hafter, stopped_pool hr]
    exact ⟨stopped_running s r context, rfl⟩

/-- What a shutdown of the server that a run has led to tells and leaves. -/
structure ShutsDown (start s : Server) (actions : List Action) : Prop where
  /-- An ordinary thread is told the failure that has ended the accept loop. -/
  failed : ∀ failure, start.Failed actions failure →
    (s.shutdown .plain).1 = .error (.acceptLoop failure)
  /-- It is told none if there was none and the loop waits, has ended or is not there.  Any other
      loop may still come to one. -/
  sound : (∀ failure, ¬ start.Failed actions failure) →
    (∀ r, s.running = some r → r.loop.isParked = true ∨ r.loop.ending?.isSome = true) →
      (s.shutdown .plain).1 = .ok ()
  /-- Whatever the loop does when it is told to stop, it comes to its end by its own steps.  The
      failure that there is in the run then is told, and none if there is none. -/
  joins : s.isRunning = true → ∃ own s' how, Joins s own s' how ∧
    (∀ failure, (s.shutdown .plain).1 = .error (.acceptLoop failure) ↔
      start.Failed (actions ++ (Event.signalStop :: own).map Action.event) failure) ∧
    ((s.shutdown .plain).1 = .ok () ↔
      ∀ failure, ¬ start.Failed (actions ++ (Event.signalStop :: own).map Action.event) failure)
  /-- A task is not told any. -/
  task : (s.shutdown .task).1 = .ok ()
  stops : ∀ context, (s.shutdown context).2.1.isRunning = false ∧
    (s.shutdown context).2.1.pool.isRunning = false
  /-- The failure is told once. -/
  again : ∀ first context, ((s.shutdown first).2.1.shutdown context).1 = .ok ()

/-- However an accept loop has ended, or if it has not: the next shutdown leaves the server and its
    workers stopped.  It tells the failure of the loop, if there was one since the last shutdown or
    there is one until the loop has ended, unless it is called inside a task.  The run may end with
    a request to stop and whatever happens until the loop notices it, so that this is said of every
    way in which the thread may come to wait. -/
theorem shutsDown_of_run (config : Config) (draws : Nat → ConnectionId) (security : Security)
    (actions : List Action) (s : Server) (history : List Effect)
    (h : (ofConfig config draws security).run actions = some (s, history)) :
    ShutsDown (ofConfig config draws security) s actions := by
  have hafter := shutdown_running_pool (steady_of_run h)
  constructor
  case failed =>
    intro failure hfailed
    rw [shutdown_of_ended ((loopEnd?_eq_failed_iff h).2 hfailed)]
    rfl
  case sound =>
    intro hnone hrest
    cases hr : s.running with
    | none => exact shutdown_of_stopped hr .plain
    | some r =>
      obtain hparked | hended := hrest r hr
      · have hend : (s.haltLoop r .plain).1.loopEnd? = some .stopped :=
          loopEnd?_joinLoop_of_parked (heeds_of_run h) hr hparked
        rw [shutdown_answer hr hend]
        rfl
      · obtain ⟨how, hending⟩ := Option.isSome_iff_exists.1 hended
        have hend : s.loopEnd? = some how := by simp [loopEnd?, hr, hending]
        rw [shutdown_of_ended hend, shutdownAnswer_eq_ok_iff]
        -- a failure would be one of the run
        rintro failure rfl
        exact hnone failure ((loopEnd?_eq_failed_iff h).1 hend)
  case joins =>
    intro hs
    obtain ⟨r, hr⟩ := Option.isSome_iff_exists.1 hs
    obtain ⟨own, s', how, hjoins, hanswer⟩ := exists_joins (heeds_of_run h) (armed_of_run h) hr
    obtain ⟨effects, hrun⟩ := hjoins.run
    have hfailed : ∀ failure, how = .failed failure ↔ (ofConfig config draws security).Failed
        (actions ++ (Event.signalStop :: own).map Action.event) failure := by
      intro failure
      rw [← loopEnd?_eq_failed_iff (run_append h hrun), hjoins.ends, Option.some.injEq]
    refine ⟨own, s', how, hjoins, fun failure => ?_, ?_⟩
    · rw [hanswer, shutdownAnswer_eq_error_iff, hfailed]
    · rw [hanswer, shutdownAnswer_eq_ok_iff]
      exact forall_congr' fun failure => not_congr (hfailed failure)
  case task => exact shutdown_task s
  case stops => exact fun context => ⟨by simp [isRunning, (hafter context).1], (hafter context).2⟩
  case again => exact fun first context => shutdown_of_stopped (hafter first).1 context

/-- The id for a connection cannot be drawn, and the connection is accepted. -/
def candidateLost : List Action :=
  [.start { bound := .ok { ip := .v4 127 0 0 1, port := 8443 } }, .event (.connect none),
    .event .proceed, .event .proceed, .event .proceed, .event .drawFails, .event .accept]

/-- The failure is told, and so it is when the thread waits for the loop to come to it. -/
theorem shutsDown_of_run_candidateLost :
    ∃ s₁ past s history, (ofConfig (Config.default 2) (fun n => ⟨.ofNat n⟩)).run candidateLost =
        some (s₁, past) ∧
      (s₁.shutdown .plain).1 = .error (.acceptLoop .candidate) ∧
      (s₁.shutdown .plain).2.1.isRunning = false ∧
      (ofConfig (Config.default 2) (fun n => ⟨.ofNat n⟩)).run
        (candidateLost ++ [.event .proceed]) = some (s, history) ∧
      (s.shutdown .plain).1 = .error (.acceptLoop .candidate) ∧
      (s.shutdown .plain).2.1.pool.isRunning = false := by
  have hview : ((ofConfig (Config.default 2) (fun n => ⟨.ofNat n⟩)).run candidateLost).map
      (fun out => out.1.running.map fun r =>
        (r.loop.stage, r.loop.candidate, (out.1.haltLoop r .plain).1.loopEnd?)) =
        some (some (.admitting { connection := 0, peer := none }, some .failed,
          some (.failed .candidate))) := by
    decide
  obtain ⟨⟨s₁, past⟩, hrun, hview⟩ := Option.map_eq_some_iff.1 hview
  obtain ⟨r, hr, hview⟩ := Option.map_eq_some_iff.1 hview
  simp only [Prod.mk.injEq] at hview
  obtain ⟨hst, hc, hend⟩ := hview
  have hbroken : s₁.Broken .candidate := .candidate hr hst hc
  obtain ⟨s, effects, hstep, -⟩ := hbroken.proceed
  have hgone := run_append_singleton (a := .event .proceed) hrun hstep
  have hdown := shutsDown_of_run _ _ _ _ s _ hgone
  have hfirst := shutsDown_of_run _ _ _ _ s₁ _ hrun
  refine ⟨s₁, past, s, _, hrun, shutdown_answer hr hend, (hfirst.stops .plain).1, hgone, ?_,
    (hdown.stops .plain).2⟩
  exact hdown.failed .candidate ⟨_, [], s₁, past, rfl, hrun, hbroken, by simp⟩

/-- A loop dies of a check at the ceiling.  An ordinary thread would be told, and a task is not. -/
theorem failure_hidden_insideTask :
    ∃ s history, (ofConfig ((Config.default 2).setAll endlessSettings)
        (fun n => ⟨.ofNat n⟩)).run (askedAtCeiling ++ [.event .proceed]) = some (s, history) ∧
      s.loopEnd? = some (.failed (.overflow {})) ∧
      (s.shutdown .plain).1 = .error (.acceptLoop (.overflow {})) ∧
      (s.shutdown .task).1 = .ok () := by
  have hview : ((ofConfig ((Config.default 2).setAll endlessSettings)
      (fun n => ⟨.ofNat n⟩)).run (askedAtCeiling ++ [.event .proceed])).map (fun out =>
        decide (out.1.loopEnd? = some (.failed (.overflow {})))) = some true := by
    decide
  obtain ⟨⟨s, history⟩, hrun, hview⟩ := Option.map_eq_some_iff.1 hview
  have hend := of_decide_eq_true hview
  refine ⟨s, history, hrun, hend, ?_, shutdown_task s⟩
  rw [shutdown_of_ended hend]
  rfl

end TlsEcho.Server
