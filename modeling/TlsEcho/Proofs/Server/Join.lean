import TlsEcho.Proofs.Server.WakeUp

/-!
# Waiting for the accept loop

A thread that shuts a server down tells the accept loop to stop and waits for its end.  The loop can
take each of the steps that lead there: where it waits it has not seen the request yet (`Heeds`),
and where it needs an id, one is drawn or being drawn (`Armed`).  No step leads back, as `stepsLeft`
falls with every one of them, so that the wait is over after a few of them
(`exists_loopEnd?_haltLoop`), in whatever stage the loop was told to stop.
-/

namespace TlsEcho

namespace AcceptLoop

/-- A loop has no steps left exactly if it has ended. -/
theorem stepsLeft_eq_zero_iff {l : AcceptLoop} : l.stepsLeft = 0 ↔ l.ending?.isSome = true := by
  unfold stepsLeft ending?
  cases l.stage with
  | admitting c => by_cases hc : l.candidate = some .pending <;> simp [hc]
  | _ => simp

end AcceptLoop

namespace Server

variable {s s' : Server} {r : Running} {e : Event} {effects : List Effect}
  {actions : List Action}

/-! ## Candidates at hand -/

/-- Whether a loop has a candidate wherever it needs one: while an accept is outstanding, and while
    a connection that has been accepted waits for its id. -/
def Armed (s : Server) : Prop :=
  ∀ r, s.running = some r → r.loop.stage = .accepting ∨ r.loop.admitted?.isSome = true →
    r.loop.candidate.isSome = true

/-- Every step keeps the loop armed.  It takes the candidate only where it leaves these stages. -/
theorem Armed.step (h : Armed s) (ht : Transition s e s' effects) : Armed s' := by
  cases ht with
  | session hstep =>
    obtain ⟨_, _, _, -, -, rfl, -⟩ := stepSession_eq_some.1 hstep
    exact h
  | drawStray | advance => exact h
  | connect hr | signalStop hr =>
    intro r' hr'
    obtain rfl := Option.some.inj hr'
    exact (h _ hr :)
  | keepCandidate hr hst hc =>
    intro r' hr' _
    obtain rfl := Option.some.inj hr'
    simp [hc]
  | accept hr hst =>
    -- the accept was outstanding, so there is a candidate for the connection
    intro r' hr' _
    obtain rfl := Option.some.inj hr'
    exact (h _ hr (.inl hst) :)
  | draw | drawFails | spawnCandidate =>
    intro r' hr' _
    obtain rfl := Option.some.inj hr'
    rfl
  | subscribe | permit | coolDown | coolOn | overflow | resume | catchUp | openSession | collide
  | missCandidate | acceptFails | liveChanged | stop | wakeUp | retry =>
    -- the loop enters a stage in which it needs none
    intro r' hr' hneeds
    obtain rfl := Option.some.inj hr'
    simp [AcceptLoop.admitted?] at hneeds

/-- A loop that is launched needs no candidate yet, and one that is shut down is gone. -/
theorem Armed.act {a : Action} (h : Armed s) (hact : s.act a = some (s', effects)) : Armed s' := by
  cases a with
  | event e => exact h.step (step_transition hact)
  | start host =>
    obtain ⟨-, rfl | ⟨-, pool, rfl⟩ | ⟨-, pool, address, rfl⟩⟩ := act_start_eq_some hact
    · exact h
    · exact h
    · intro r' hr' hneeds
      obtain rfl := Option.some.inj hr'
      simp [AcceptLoop.admitted?] at hneeds
  | shutdown context =>
    obtain ⟨-, rfl, -⟩ | ⟨r, -, rfl, -⟩ := act_shutdown_eq_some hact
    · exact h
    · intro r' hr'
      rw [stopped_running s r context] at hr'
      exact nomatch hr'

/-- The loop is armed after every run. -/
theorem armed_of_run {config : Config} {draws : Nat → ConnectionId} {security : Security}
    (h : (ofConfig config draws security).run actions = some (s, effects)) : Armed s :=
  run_invariant (P := fun _ _ s => Armed s) (by simp [Armed, ofConfig])
    (fun _ _ _ _ _ _ hs hact => hs.act hact) h

/-! ## The way to the end -/

/-- A loop that has been told to stop, and has not ended, can do what it does next. -/
theorem exists_step_ownEvent (h : Heeds true s) (ha : Armed s) (hr : s.running = some r)
    (hending : r.loop.ending? = none) :
    ∃ e, ownEvent? r.loop = some e ∧ (s.step e).isSome = true := by
  cases hst : r.loop.stage with
  | ended how => simp [AcceptLoop.ending?, hst] at hending
  | coolingDown | accepting | backingOff =>
    -- the loop waits, and there is a request that it has not seen
    have hparked : r.loop.isParked = true := by simp [AcceptLoop.isParked, hst]
    obtain ⟨_, _, _, hstep, -⟩ := h.exists_step_stop hr rfl hparked
    exact ⟨.stop, by simp [ownEvent?, hst], by simp [hstep]⟩
  | admitting c =>
    have hcandidate := ha r hr (.inr (by simp [AcceptLoop.admitted?, hst]))
    obtain ⟨candidate, hc⟩ := Option.isSome_iff_exists.1 hcandidate
    cases candidate with
    | pending => exact ⟨.draw, by simp [ownEvent?, hst, hc], by simp [step, hr, drawEnds, hc]⟩
    | drawn | failed =>
      exact ⟨.proceed, by simp [ownEvent?, hst, hc], by simp [step, hr, proceed, hst, hc]⟩
  | starting | checking | coolingOver | catchingUp | choosing =>
    exact ⟨.proceed, by simp [ownEvent?, hst], by simp [step, hr, proceed, hst]⟩

/-- The loop does not tell itself to stop. -/
theorem ownEvent?_ne_signalStop (l : AcceptLoop) : ownEvent? l ≠ some .signalStop := by
  unfold ownEvent?
  split
  case h_5 => split <;> simp
  all_goals simp

/-- What the loop does next brings it nearer to its end. -/
theorem stepsLeft_lt (ht : Transition s e s' effects) (hr : s.running = some r)
    (he : ownEvent? r.loop = some e) :
    ∃ r', s'.running = some r' ∧ r'.loop.stepsLeft < r.loop.stepsLeft := by
  have hown := isOwn_of_ownEvent? he
  cases ht with
  | signalStop => exact absurd he (ownEvent?_ne_signalStop r.loop)
  | draw hr' hc =>
    obtain rfl := Option.some.inj (hr.symm.trans hr')
    unfold ownEvent? at he
    split at he <;> simp_all [AcceptLoop.stepsLeft]
  | stop hr' hparked =>
    obtain rfl := Option.some.inj (hr.symm.trans hr')
    refine ⟨_, rfl, ?_⟩
    unfold AcceptLoop.isParked at hparked
    split at hparked <;> simp_all [AcceptLoop.stepsLeft]
  | subscribe hr' hst | permit hr' hst | coolDown hr' hst | coolOn hr' hst | overflow hr' hst
  | resume hr' hst | catchUp hr' hst | keepCandidate hr' hst | spawnCandidate hr' hst =>
    obtain rfl := Option.some.inj (hr.symm.trans hr')
    exact ⟨_, rfl, by simp [AcceptLoop.stepsLeft, hst]⟩
  | openSession hr' hst hc | collide hr' hst hc | missCandidate hr' hst hc =>
    obtain rfl := Option.some.inj (hr.symm.trans hr')
    exact ⟨_, rfl, by simp [AcceptLoop.stepsLeft, hst, hc]⟩
  | connect | drawFails | drawStray | accept | acceptFails | liveChanged | wakeUp | retry
  | session | advance => exact nomatch hown

/-- A loop that has ended does nothing any more. -/
theorem runLoop_of_ended {how : LoopEnd} (h : s.loopEnd? = some how) (n : Nat) :
    s.runLoop n = (s, []) := by
  obtain ⟨r, hr, hending⟩ := Option.bind_eq_some_iff.1 h
  have hnext : ownEvent? r.loop = none := by
    unfold AcceptLoop.ending? at hending
    unfold ownEvent?
    split at hending <;> simp_all
  cases n with
  | zero => rfl
  | succ n => simp [runLoop, hr, hnext]

/-- A loop that has been told to stop has ended after as many steps as it has left. -/
theorem exists_loopEnd?_runLoop (h : Heeds true s) (ha : Armed s) (hr : s.running = some r)
    {n : Nat} (hn : r.loop.stepsLeft ≤ n) : ∃ how, (s.runLoop n).1.loopEnd? = some how := by
  induction n generalizing s r with
  | zero =>
    have hended := AcceptLoop.stepsLeft_eq_zero_iff.1 (Nat.le_zero.1 hn)
    obtain ⟨how, hending⟩ := Option.isSome_iff_exists.1 hended
    exact ⟨how, by simp [runLoop, loopEnd?, hr, hending]⟩
  | succ n ih =>
    cases hending : r.loop.ending? with
    | some how =>
      have hend : s.loopEnd? = some how := by simp [loopEnd?, hr, hending]
      exact ⟨how, by rw [runLoop_of_ended hend, hend]⟩
    | none =>
      obtain ⟨e, he, hstep⟩ := exists_step_ownEvent h ha hr hending
      obtain ⟨⟨s₁, effects⟩, hstep⟩ := Option.isSome_iff_exists.1 hstep
      have ht := step_transition hstep
      -- one step less is left afterwards, and the loop still heeds the request
      obtain ⟨r₁, hr₁, hlt⟩ := stepsLeft_lt ht hr he
      have hne : e ≠ .signalStop := by
        rintro rfl
        exact ownEvent?_ne_signalStop r.loop he
      obtain ⟨how, hend⟩ := ih (h.step ht hne) (ha.step ht) hr₁ (by omega)
      refine ⟨how, ?_⟩
      have hrun : s.runLoop (n + 1) = ((s₁.runLoop n).1, effects ++ (s₁.runLoop n).2) := by
        simp [runLoop, hr, he, hstep]
      rw [hrun]
      exact hend

/-! ## The end of the accept loop -/

/-- A loop that has ended by itself is found so by a shutdown. -/
theorem loopEnd?_haltLoop_of_ended {how : LoopEnd} (hr : s.running = some r)
    (hending : r.loop.ending? = some how) (context : CallContext) :
    (s.haltLoop r context).1.loopEnd? = some how := by
  cases context with
  | plain =>
    have hleft : r.loop.stepsLeft = 0 := AcceptLoop.stepsLeft_eq_zero_iff.2 (by simp [hending])
    simp [haltLoop, joinLoop, hleft, runLoop, loopEnd?, hending]
  | task => simp [haltLoop, abortLoop, hending, loopEnd?, hr]

/-- A loop that waits ends as it is told. -/
theorem loopEnd?_joinLoop_of_parked {signalled : Bool} (h : Heeds signalled s)
    (hr : s.running = some r) (hparked : r.loop.isParked = true) :
    (s.joinLoop r).1.loopEnd? = some .stopped := by
  have htold := h.signalled hr
  obtain ⟨after, effects, r', hstep, hr', hending⟩ := htold.exists_step_stop rfl rfl hparked
  have hnext : ownEvent? r.loop = some .stop ∧ r.loop.stepsLeft = 1 := by
    unfold AcceptLoop.isParked at hparked
    unfold ownEvent? AcceptLoop.stepsLeft
    split at hparked <;> simp_all
  have hjoin : s.joinLoop r = (after, effects) := by
    simp [joinLoop, hnext.1, hnext.2, runLoop, hstep]
  rw [hjoin, loopEnd?, hr']
  exact hending

/-- A shutdown finds the end of the accept loop, which it has told to stop or aborted. -/
theorem exists_loopEnd?_haltLoop {signalled : Bool} (h : Heeds signalled s) (ha : Armed s)
    (hr : s.running = some r) (context : CallContext) :
    ∃ how, (s.haltLoop r context).1.loopEnd? = some how := by
  cases context with
  | plain =>
    exact exists_loopEnd?_runLoop (h.signalled hr) (ha.step (.signalStop hr)) rfl (Nat.le_refl _)
  | task =>
    show ∃ how, (s.abortLoop r).1.loopEnd? = some how
    unfold abortLoop
    split
    · rename_i hended
      obtain ⟨how, hending⟩ := Option.isSome_iff_exists.1 hended
      exact ⟨how, by simp [loopEnd?, hr, hending]⟩
    · exact ⟨.stopped, rfl⟩

end Server

end TlsEcho
