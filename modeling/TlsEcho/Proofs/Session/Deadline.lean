import TlsEcho.Proofs.Session.Silence

/-!
# Deadlines

The wait for the handshake and every wait for a read have a deadline of their own, which is the idle
timeout after the wait has begun.  A call that is done by its deadline is taken, and one that is not
closes the session right at the deadline.  A session has no other way to become idle, so that its
outcome tells whether any such call was `Overdue`.

The clock shows whole milliseconds, and a timeout is over at the first reading that shows it
(`Duration.ceilMillis_le_iff`).
-/

namespace TlsEcho

/-- The whole milliseconds of a duration are the first ones by which it is over. -/
theorem Duration.ceilMillis_le_iff {d : Duration} {millis : Nat} :
    d.ceilMillis ≤ millis ↔ d.nanos ≤ millis * nanosPerMilli := by
  unfold ceilMillis nanosPerMilli
  omega

namespace Session

variable {ctx : Context} {s s' : Session} {signal : Signal} {effects : List Effect}

/-! ## Transitions and the timeout -/

/-- A session comes to be idle only while it waits for the handshake or for a read. -/
theorem timeout_of_idleTimeout (h : Transition ctx s signal s' effects)
    (hs : s.outcome? ≠ some .idleTimeout) (hs' : s'.outcome? = some .idleTimeout) :
    ctx.idleTimeout.isSome = true ∧ signal = .timeout ∧
      (s.stage = .awaitingHandshake ∨ s.stage = .awaitingRead) := by
  cases h <;> simp_all [outcome?]

/-- A timeout in one of the two timed waits closes the connection as idle. -/
theorem closing_of_timeout (h : Transition ctx s .timeout s' effects)
    (hs : s.stage = .awaitingHandshake ∨ s.stage = .awaitingRead) :
    s'.stage = .closing .idleTimeout := by
  cases h <;> simp_all

/-- Nothing is waited for before the handshake. -/
theorem beginning_step (h : Transition ctx s signal s' effects)
    (hs' : s'.stage ∈ [.accepted, .handshaking, .awaitingHandshake]) :
    s.stage ∈ [.accepted, .handshaking, .awaitingHandshake] ∧ s.isWaiting = false := by
  cases h <;> simp_all [isWaiting]

/-- Every read is begun at once by a session that is to read. -/
theorem reading_of_awaitingRead (h : Transition ctx s signal s' effects)
    (hs' : s'.stage = .awaitingRead) : s.stage = .reading := by
  cases h <;> simp_all

namespace Player

variable {p q : Player} {move : Move} {since time limit : Nat} {after : Option Nat}
  {result : Signal} {script : Script}

/-! ## Waits and what they come to -/

/-- A session that begins now, with its whole script to come. -/
def start (ctx : Context) (id : ConnectionId) (peer : Option Address) (script : Script)
    (now : Nat) : Player :=
  { session := Session.start ctx id peer, script, since := now }

/-- What becomes of a session on a clock, step after step. -/
inductive Reached (ctx : Context) (first : Player) : Player → Prop
  | first : Reached ctx first first
  | step {p : Player} {move : Move} : Reached ctx first p → p.advance ctx = some move →
      Reached ctx first move.after

/-- The handshake or the read that the session waits for: how long it takes in all, and what it then
    comes to. -/
def awaited? (p : Player) : Option (Option Nat × Signal) :=
  match p.session.stage with
  | .awaitingHandshake => some (p.script.handshake.after, .handshake p.script.handshake.result)
  | .awaitingRead => some (p.script.nextRead.1.after, .read p.script.nextRead.1.result)
  | _ => none

/-- Whether a call that takes so long is not done when the limit is reached. -/
def Overdue (limit : Nat) (after : Option Nat) : Prop := ∀ a ∈ after, limit < a

/-- What comes after the limit, or never, is cut off at the limit. -/
theorem resolve_of_overdue (h : Overdue limit after) :
    resolve since (some limit) after result = some (since + limit, .timeout) := by
  cases after with
  | none => rfl
  | some a =>
    have hlt : limit < a := h a rfl
    rw [resolve, if_neg (Nat.not_le_of_lt hlt)]

/-- What comes by the limit is taken when it comes. -/
theorem resolve_of_le {a : Nat} (h : a ≤ limit) :
    resolve since (some limit) (some a) result = some (since + a, result) := by
  rw [resolve, if_pos h]

/-- A wait ends by its limit or by what is awaited. -/
theorem signal_of_resolve {limit : Option Nat}
    (h : resolve since limit after result = some (time, signal)) :
    signal = .timeout ∨ signal = result := by
  unfold resolve at h
  split at h
  · split at h
    · obtain ⟨-, rfl⟩ := h
      exact .inr rfl
    · obtain ⟨-, rfl⟩ := h
      exact .inl rfl
  · obtain ⟨-, rfl⟩ := h
    exact .inr rfl
  · obtain ⟨-, rfl⟩ := h
    exact .inl rfl
  · exact nomatch h

/-- A wait takes too long only if the call is overdue at its limit. -/
theorem overdue_of_resolve (hresult : result ≠ .timeout)
    (h : resolve since (some limit) after result = some (time, .timeout)) :
    Overdue limit after ∧ time = since + limit := by
  have hover : Overdue limit after := by
    intro a ha
    obtain rfl := Option.mem_def.1 ha
    -- the result of the call itself is no timeout
    by_cases hle : a ≤ limit
    · rw [resolve_of_le hle] at h
      obtain ⟨-, rfl⟩ := h
      exact absurd rfl hresult
    · exact Nat.lt_of_not_le hle
  rw [resolve_of_overdue hover] at h
  obtain ⟨rfl, -⟩ := h
  exact ⟨hover, rfl⟩

/-- What is awaited is the result of the handshake or of the next read. -/
theorem awaited_cases (h : p.awaited? = some (after, result)) :
    (p.session.stage = .awaitingHandshake ∧ after = p.script.handshake.after ∧
      result = .handshake p.script.handshake.result) ∨
    (p.session.stage = .awaitingRead ∧ after = p.script.nextRead.1.after ∧
      result = .read p.script.nextRead.1.result) := by
  cases hst : p.session.stage with
  | awaitingHandshake =>
    simp only [awaited?, hst, Option.some.injEq, Prod.mk.injEq] at h
    exact .inl ⟨rfl, h.1.symm, h.2.symm⟩
  | awaitingRead =>
    simp only [awaited?, hst, Option.some.injEq, Prod.mk.injEq] at h
    exact .inr ⟨rfl, h.1.symm, h.2.symm⟩
  | _ => simp [awaited?, hst] at h

theorem awaiting_of_awaited (h : p.awaited? = some (after, result)) :
    p.session.stage = .awaitingHandshake ∨ p.session.stage = .awaitingRead :=
  (awaited_cases h).imp And.left And.left

/-- Both timed waits wait for something. -/
theorem exists_awaited
    (h : p.session.stage = .awaitingHandshake ∨ p.session.stage = .awaitingRead) :
    ∃ after result, p.awaited? = some (after, result) := by
  obtain h | h := h <;> exact ⟨_, _, by simp only [awaited?, h]; rfl⟩

theorem awaited_ne_timeout (h : p.awaited? = some (after, result)) : result ≠ .timeout := by
  obtain ⟨-, -, rfl⟩ | ⟨-, -, rfl⟩ := awaited_cases h
  · exact nofun
  · exact nofun

/-- The next step of a session that waits is when and by what its wait ends. -/
theorem upcoming_of_awaited (h : p.awaited? = some (after, result)) :
    (p.upcoming ctx).map (fun next => (next.1, next.2.1)) =
      resolve p.since (ctx.idleTimeout.map Duration.ceilMillis) after result := by
  obtain ⟨hst, rfl, rfl⟩ | ⟨hst, rfl, rfl⟩ := awaited_cases h
  all_goals
    simp only [upcoming, waitLimit?, hst, Option.map_map]
    -- what becomes of the script does not matter here
    generalize resolve _ _ _ _ = ends
    obtain _ | ⟨time, signal⟩ := ends
    · rfl
    · cases signal <;> rfl

/-- A read brings no more than fits. -/
theorem length_nextRead_le {data : Bytes} (h : script.nextRead.1.result = .ok data) :
    data.length ≤ readSize := by
  unfold Script.nextRead at h
  split at h
  · obtain rfl := Except.ok.inj h
    exact Nat.zero_le _
  · exact nomatch h
  · split at h
    · obtain rfl := Except.ok.inj h
      assumption
    · obtain rfl := Except.ok.inj h
      rw [List.length_take]
      exact Nat.min_le_left ..

/-- The session can take the step on what is awaited. -/
theorem isSome_step_awaited (h : p.awaited? = some (after, result)) :
    (p.session.step ctx result).isSome = true := by
  obtain ⟨hst, -, rfl⟩ | ⟨hst, -, rfl⟩ := awaited_cases h
  · simp [Session.step, hst]
  · cases hread : p.script.nextRead.1.result with
    | error e => simp [Session.step, hst]
    | ok data => simp [Session.step, hst, length_nextRead_le hread]

/-- The session can take the step on the timeout, too. -/
theorem isSome_step_timeout (hlimit : ctx.idleTimeout.isSome = true)
    (h : s.stage = .awaitingHandshake ∨ s.stage = .awaitingRead) :
    (s.step ctx .timeout).isSome = true := by
  obtain ⟨l, hl⟩ := Option.isSome_iff_exists.1 hlimit
  obtain h | h := h <;> simp [Session.step, timedOut, h, hl]

/-! ## Steps at their times -/

/-- A session that waits takes the step that its wait ends with. -/
theorem advance_of_resolve (h : p.awaited? = some (after, result))
    (hends : resolve p.since (ctx.idleTimeout.map Duration.ceilMillis) after result =
      some (time, signal))
    (hstep : (p.session.step ctx signal).isSome = true) :
    ∃ move, p.advance ctx = some move ∧ move.time = time ∧ move.signal = signal := by
  rw [← upcoming_of_awaited h] at hends
  obtain ⟨⟨t, r, script⟩, hnext, heq⟩ := Option.map_eq_some_iff.1 hends
  obtain ⟨rfl, rfl⟩ := Prod.mk.inj heq
  obtain ⟨⟨session, effects⟩, hsession⟩ := Option.isSome_iff_exists.1 hstep
  refine ⟨⟨t, r, effects, ⟨session, script, t⟩⟩, ?_, rfl, rfl⟩
  simp only [advance, hnext, hsession, Option.map_some]

/-- A session that waits takes no other step. -/
theorem resolve_of_advance (h : p.awaited? = some (after, result))
    (hmove : p.advance ctx = some move) :
    resolve p.since (ctx.idleTimeout.map Duration.ceilMillis) after result =
      some (move.time, move.signal) := by
  rw [← upcoming_of_awaited h]
  unfold advance at hmove
  split at hmove
  · exact nomatch hmove
  · rename_i time signal script hnext
    obtain ⟨-, -, rfl⟩ := Option.map_eq_some_iff.1 hmove
    rw [hnext]
    rfl

/-- What is reached from a reached player is reached. -/
theorem Reached.trans {first : Player} (hp : Reached ctx first p) (hq : Reached ctx p q) :
    Reached ctx first q := by
  induction hq with
  | first => exact hp
  | step _ hmove ih => exact ih.step hmove

/-- An overdue call closes the session at its deadline. -/
theorem advance_of_overdue {timeout : Duration} (hlimit : ctx.idleTimeout = some timeout)
    (h : p.awaited? = some (after, result)) (hover : Overdue timeout.ceilMillis after) :
    ∃ move, p.advance ctx = some move ∧ move.time = p.since + timeout.ceilMillis ∧
      move.after.session.stage = .closing .idleTimeout := by
  have hst := awaiting_of_awaited h
  have hends : resolve p.since (ctx.idleTimeout.map Duration.ceilMillis) after result =
      some (p.since + timeout.ceilMillis, .timeout) := by
    rw [hlimit]
    exact resolve_of_overdue hover
  have hstep : (p.session.step ctx .timeout).isSome = true :=
    isSome_step_timeout (by rw [hlimit]; rfl) hst
  obtain ⟨move, hmove, htime, hsignal⟩ := advance_of_resolve h hends hstep
  refine ⟨move, hmove, htime, ?_⟩
  obtain ⟨ht, -⟩ := advance_eq_some hmove
  exact closing_of_timeout (hsignal ▸ ht) hst

/-- A call that is done by its deadline is taken, and does not make the session idle. -/
theorem advance_of_le {timeout : Duration} (hlimit : ctx.idleTimeout = some timeout) {a : Nat}
    (h : p.awaited? = some (some a, result)) (hle : a ≤ timeout.ceilMillis) :
    ∃ move, p.advance ctx = some move ∧ move.time = p.since + a ∧ move.signal = result ∧
      move.after.session.outcome? ≠ some .idleTimeout := by
  have hends : resolve p.since (ctx.idleTimeout.map Duration.ceilMillis) (some a) result =
      some (p.since + a, result) := by
    rw [hlimit]
    exact resolve_of_le hle
  obtain ⟨move, hmove, htime, hsignal⟩ := advance_of_resolve h hends (isSome_step_awaited h)
  refine ⟨move, hmove, htime, hsignal, fun hidle => ?_⟩
  obtain ⟨ht, -⟩ := advance_eq_some hmove
  have hbefore : p.session.outcome? ≠ some .idleTimeout := by
    obtain hst | hst := awaiting_of_awaited h <;> simp [outcome?, hst]
  exact awaited_ne_timeout h (hsignal.symm.trans (timeout_of_idleTimeout ht hbefore hidle).2.1)

/-! ## Closing -/

/-- Whatever the shutdown of the stream comes to, it ends the session with the same outcome. -/
theorem exists_step_awaitingShutdown {outcome : Outcome}
    (h : p.session.stage = .awaitingShutdown outcome)
    (hnext : p.upcoming ctx = some (time, signal, script)) :
    ∃ s' effects, p.session.step ctx signal = some (s', effects) ∧
      s'.stage = .ended (.finished outcome) := by
  simp only [upcoming, h] at hnext
  obtain ⟨⟨t, r⟩, hends, heq⟩ := Option.map_eq_some_iff.1 hnext
  obtain rfl | rfl := signal_of_resolve hends
  · obtain ⟨rfl, rfl, rfl⟩ := heq
    exact ⟨_, _, by simp only [Session.step, timedOut, h]; rfl, rfl⟩
  · obtain ⟨rfl, rfl, rfl⟩ := heq
    exact ⟨_, _, by simp only [Session.step, h]; rfl, rfl⟩

/-- A session that closes is over within the grace period, whatever its peer does. -/
theorem ended_of_closing {outcome : Outcome} (h : p.session.stage = .closing outcome) :
    ∃ q, Reached ctx p q ∧ q.session.stage = .ended (.finished outcome) ∧
      q.since ≤ p.since + shutdownGrace := by
  cases hstream : p.session.hasStream with
  | false =>
    have hmove : p.advance ctx = some ⟨p.since, .go, (p.session.leave outcome).2,
        ⟨(p.session.leave outcome).1, p.script, p.since⟩⟩ := by
      simp [advance, upcoming, h, Session.step, proceed, hstream]
    exact ⟨_, .step .first hmove, rfl, Nat.le_add_right ..⟩
  | true =>
    -- the stream is shut down first, which is the only wait
    let q : Player := ⟨{ p.session.enter (.awaitingShutdown outcome) with hasStream := false },
      p.script, p.since⟩
    have hbegin : p.advance ctx = some ⟨p.since, .go, [], q⟩ := by
      simp [advance, upcoming, h, Session.step, proceed, hstream, q]
    have hlimit : q.session.waitLimit? ctx = some shutdownGrace := rfl
    obtain ⟨⟨time, signal, script⟩, hnext⟩ :=
      Option.isSome_iff_exists.1 (isSome_upcoming hlimit)
    have hbound := (upcoming_bounds hnext).2.2 shutdownGrace hlimit
    obtain ⟨s', effects, hstep, hended⟩ := exists_step_awaitingShutdown rfl hnext
    have hmove : q.advance ctx = some ⟨time, signal, effects, ⟨s', script, time⟩⟩ := by
      simp only [advance, hnext, hstep, Option.map_some]
    exact ⟨_, .step (.step .first hbegin) hmove, hended, hbound⟩

/-! ## All of a session -/

section Reached

variable {id : ConnectionId} {peer : Option Address} {now : Nat}

/-- A session begins its handshake when it starts. -/
theorem since_of_beginning (h : Reached ctx (start ctx id peer script now) p)
    (hs : p.session.stage ∈ [.accepted, .handshaking, .awaitingHandshake]) : p.since = now := by
  induction h with
  | first => rfl
  | step _ hmove ih =>
    -- no time passes in a stage that waits for nothing
    obtain ⟨ht, hsince, -, hgo, -⟩ := advance_eq_some hmove
    obtain ⟨hbefore, hwaits⟩ := beginning_step ht hs
    rw [hsince, hgo hwaits, ih hbefore]

/-- A session begins a read when it comes to be reading. -/
theorem exists_reading (h : Reached ctx (start ctx id peer script now) p)
    (hs : p.session.stage = .awaitingRead) :
    ∃ q move, Reached ctx (start ctx id peer script now) q ∧ q.session.stage = .reading ∧
      q.advance ctx = some move ∧ move.after = p ∧ p.since = q.since := by
  cases h with
  | first => exact nomatch hs
  | @step q move hq hmove =>
    obtain ⟨ht, hsince, -, hgo, -⟩ := advance_eq_some hmove
    have hreading := reading_of_awaitingRead ht hs
    have hwaits : q.session.isWaiting = false := by simp [isWaiting, hreading]
    exact ⟨q, move, hq, hreading, hmove, rfl, by rw [hsince, hgo hwaits]⟩

/-- A session that is idle has come to be so when the deadline of an overdue call was reached. -/
theorem exists_overdue_of_idleTimeout (h : Reached ctx (start ctx id peer script now) p)
    (hs : p.session.outcome? = some .idleTimeout) :
    ∃ timeout q after result, ctx.idleTimeout = some timeout ∧
      Reached ctx (start ctx id peer script now) q ∧ q.awaited? = some (after, result) ∧
      Overdue timeout.ceilMillis after ∧
      (p.session.stage = .closing .idleTimeout → p.since = q.since + timeout.ceilMillis) := by
  induction h with
  | first => exact nomatch hs
  | @step q move hq hmove ih =>
    obtain ⟨ht, hsince, -⟩ := advance_eq_some hmove
    by_cases hbefore : q.session.outcome? = some .idleTimeout
    · -- then the session does not close once more
      obtain ⟨timeout, w, after, result, hlimit, hw, hawaited, hover, -⟩ := ih hbefore
      refine ⟨timeout, w, after, result, hlimit, hw, hawaited, hover, fun hclosing => ?_⟩
      have hleaving : q.session.isLeaving = true := by
        unfold outcome? at hbefore
        unfold isLeaving
        split at hbefore <;> simp_all
      have hnot := isClosing_of_isLeaving ht hleaving
      simp [isClosing, hclosing] at hnot
    · obtain ⟨hsome, hsignal, hwaits⟩ := timeout_of_idleTimeout ht hbefore hs
      obtain ⟨timeout, hlimit⟩ := Option.isSome_iff_exists.1 hsome
      obtain ⟨after, result, hawaited⟩ := exists_awaited hwaits
      have hends := resolve_of_advance hawaited hmove
      rw [hsignal, hlimit] at hends
      obtain ⟨hover, htime⟩ := overdue_of_resolve (awaited_ne_timeout hawaited) hends
      exact ⟨timeout, q, after, result, hlimit, hq, hawaited, hover, fun _ => hsince.trans htime⟩

/-- What an idle timeout means for a session that begins at the time `now`. -/
structure Timely (ctx : Context) (timeout : Duration) (now : Nat) (first : Player) : Prop where
  /-- The timeout is over at the first reading of the clock that shows it. -/
  reading (millis : Nat) :
    timeout.ceilMillis ≤ millis ↔ timeout.nanos ≤ millis * nanosPerMilli
  /-- The session ends as idle exactly if it waits for a handshake or a read that is overdue. -/
  idle_iff : (∃ p, Reached ctx first p ∧ p.session.stage = .ended (.finished .idleTimeout)) ↔
    ∃ p after result, Reached ctx first p ∧ p.awaited? = some (after, result) ∧
      Overdue timeout.ceilMillis after
  /-- An overdue call closes the session right at its deadline. -/
  overdue (p : Player) (after : Option Nat) (result : Signal) (hp : Reached ctx first p)
    (h : p.awaited? = some (after, result)) (hover : Overdue timeout.ceilMillis after) :
    ∃ move, p.advance ctx = some move ∧ move.time = p.since + timeout.ceilMillis ∧
      move.after.session.stage = .closing .idleTimeout
  /-- A session that closes as idle does so at the deadline of an overdue call. -/
  closing (p : Player) (hp : Reached ctx first p)
    (h : p.session.stage = .closing .idleTimeout) :
    ∃ q after result, Reached ctx first q ∧ q.awaited? = some (after, result) ∧
      Overdue timeout.ceilMillis after ∧ p.since = q.since + timeout.ceilMillis
  /-- What is there by the deadline is taken. -/
  taken (p : Player) (a : Nat) (result : Signal) (hp : Reached ctx first p)
    (h : p.awaited? = some (some a, result)) (hle : a ≤ timeout.ceilMillis) :
    ∃ move, p.advance ctx = some move ∧ move.time = p.since + a ∧ move.signal = result ∧
      move.after.session.outcome? ≠ some .idleTimeout
  /-- The wait for the handshake begins with the session. -/
  handshake (p : Player) (hp : Reached ctx first p)
    (h : p.session.stage = .awaitingHandshake) : p.since = now
  /-- The wait for a read begins when the session comes to be reading, after all that was to be
      written. -/
  read (p : Player) (hp : Reached ctx first p) (h : p.session.stage = .awaitingRead) :
    ∃ q move, Reached ctx first q ∧ q.session.stage = .reading ∧ q.advance ctx = some move ∧
      move.after = p ∧ p.since = q.since

theorem timely_start {timeout : Duration} (hlimit : ctx.idleTimeout = some timeout) :
    Timely ctx timeout now (start ctx id peer script now) where
  reading _ := Duration.ceilMillis_le_iff
  idle_iff := by
    constructor
    · rintro ⟨p, hp, hs⟩
      have hidle : p.session.outcome? = some .idleTimeout := by simp [outcome?, hs]
      obtain ⟨_, q, after, result, hlimit', hq, hawaited, hover, -⟩ :=
        exists_overdue_of_idleTimeout hp hidle
      obtain rfl := Option.some.inj (hlimit.symm.trans hlimit')
      exact ⟨q, after, result, hq, hawaited, hover⟩
    · rintro ⟨p, after, result, hp, hawaited, hover⟩
      obtain ⟨move, hmove, -, hclosing⟩ := advance_of_overdue hlimit hawaited hover
      obtain ⟨q, hq, hended, -⟩ := ended_of_closing hclosing
      exact ⟨q, (hp.step hmove).trans hq, hended⟩
  overdue p after result _ h hover := advance_of_overdue hlimit h hover
  closing p hp h := by
    have hidle : p.session.outcome? = some .idleTimeout := by simp [outcome?, h]
    obtain ⟨_, q, after, result, hlimit', hq, hawaited, hover, hsince⟩ :=
      exists_overdue_of_idleTimeout hp hidle
    obtain rfl := Option.some.inj (hlimit.symm.trans hlimit')
    exact ⟨q, after, result, hq, hawaited, hover, hsince h⟩
  taken p a result _ h hle := advance_of_le hlimit h hle
  handshake p hp h := since_of_beginning hp (by simp [h])
  read p hp h := exists_reading hp h

end Reached

/-- Whatever its peer does and however long each call takes, a session that has an idle timeout
    keeps to it, and a session that has none is never idle.  Every session that closes is over
    within the grace period. -/
theorem timely_of_reached (ctx : Context) (id : ConnectionId) (peer : Option Address)
    (script : Script) (now : Nat) :
    (∀ timeout, ctx.idleTimeout = some timeout →
      Timely ctx timeout now (start ctx id peer script now)) ∧
    (ctx.idleTimeout = none → ∀ p, Reached ctx (start ctx id peer script now) p →
      p.session.outcome? ≠ some .idleTimeout) ∧
    ∀ p outcome, Reached ctx (start ctx id peer script now) p →
      p.session.stage = .closing outcome →
      ∃ q, Reached ctx p q ∧ q.session.stage = .ended (.finished outcome) ∧
        q.since ≤ p.since + shutdownGrace := by
  refine ⟨fun timeout hlimit => timely_start hlimit, ?_, fun p outcome _ h => ended_of_closing h⟩
  intro hnone p hp hidle
  obtain ⟨timeout, _, _, _, hlimit, -⟩ := exists_overdue_of_idleTimeout hp hidle
  exact nomatch hnone.symm.trans hlimit

/-- A peer that sends a byte in the last moment, takes the reply after 500 ms, and then sends
    nothing and does not let its stream be shut down. -/
def slowReader : Script where
  reads := [⟨some 100, .ok [97]⟩, ⟨none, .ok []⟩]
  writes := [⟨some 500, .ok none⟩]
  shutdowns := [⟨none, .ok ()⟩]

/-- What the reply took is not taken off the time for the second read. -/
theorem timely_of_reached_slowReader :
    ∃ p move q, Reached impatient (start impatient ⟨7⟩ none slowReader 0) p ∧
      p.session.stage = .awaitingRead ∧ p.since = 600 ∧
      p.advance impatient = some move ∧ move.time = 700 ∧
      move.after.session.stage = .closing .idleTimeout ∧
      Reached impatient move.after q ∧ q.session.stage = .ended (.finished .idleTimeout) ∧
      q.since ≤ 1700 := by
  obtain ⟨htimely, -, hends⟩ := timely_of_reached impatient ⟨7⟩ none slowReader 0
  -- the handshake, the first read, and the reply
  have hfirst : Reached impatient (start impatient ⟨7⟩ none slowReader 0) _ :=
    (((Reached.first.step rfl).step rfl).step rfl).step rfl
  have hread := ((hfirst.step rfl).step rfl).step rfl
  have hwait := ((hread.step rfl).step rfl).step rfl
  obtain ⟨move, hmove, htime, hclosing⟩ :=
    (htimely tenthOfSecond rfl).overdue _ none _ hwait rfl nofun
  obtain ⟨q, hq, hended, hsince⟩ := hends _ _ (hwait.step hmove) hclosing
  refine ⟨_, move, q, hwait, rfl, rfl, hmove, htime, hclosing, hq, hended, ?_⟩
  rw [(advance_eq_some hmove).2.1, htime] at hsince
  exact hsince

end Player

end Session

end TlsEcho
