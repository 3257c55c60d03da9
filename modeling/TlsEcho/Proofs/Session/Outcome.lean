import TlsEcho.Proofs.Session.Closing

/-!
# How a session ends

A passage may tell of a failure: a call that has failed, or a wait that took longer than the idle
timeout allows.  The first failure closes the session and none follows (`outcome?_step`), so that
the outcome of a session that has ended by itself can be read off what its calls came to.

Whether the policy has refused the input depends on the number of bytes received alone
(`policyFailed_of_run`).
-/

namespace TlsEcho

/-! ## What a policy refuses -/

namespace Echo.Policy

variable {p p' : Policy} {chunk : Bytes} {eof : Bool} {limit : Nat}

/-- The most bytes that the policy keeps, if there is a limit. -/
def limit? : Policy → Option Nat
  | .immediate => none
  | .accumulate a => a.limit

theorem limit?_build {kind : PolicyKind} {configured : Option Nat} :
    (kind.build configured).limit? = some limit ↔
      kind = .accumulate ∧ configured = some limit := by
  cases kind <;> simp [PolicyKind.build, limit?]

/-- The limit of a policy never changes. -/
theorem limit?_of_process {answer : Except PolicyError Reply}
    (h : p.process chunk eof = (answer, p')) : p'.limit? = p.limit? := by
  cases p with
  | immediate =>
    obtain ⟨-, rfl⟩ := Prod.mk.inj h
    rfl
  | accumulate a =>
    simp only [process, Accumulator.process] at h
    split at h
    · obtain ⟨-, rfl⟩ := Prod.mk.inj h
      rfl
    · cases eof <;> obtain ⟨-, rfl⟩ := Prod.mk.inj h <;> rfl

/-- A refused chunk would have passed the limit. -/
theorem lt_of_process_error {e : PolicyError} (h : p.process chunk eof = (.error e, p')) :
    ∃ limit, p.limit? = some limit ∧ limit < p.kept.length + chunk.length := by
  cases p with
  | immediate => simp [process] at h
  | accumulate a =>
    simp only [process, Accumulator.process] at h
    split at h
    · rename_i limit hpassed
      obtain ⟨hlimit, hlt⟩ := Option.filter_eq_some_iff.1 hpassed
      exact ⟨limit, hlimit, by simpa [kept] using hlt⟩
    · cases eof <;> simp at h

/-- An accepted chunk does not pass the limit. -/
theorem le_of_process_ok {reply : Reply} (h : p.process chunk eof = (.ok reply, p'))
    (hl : p.limit? = some limit) : p.kept.length + chunk.length ≤ limit := by
  cases p with
  | immediate => simp [limit?] at hl
  | accumulate a =>
    simp only [process, Accumulator.process] at h
    split at h
    · simp at h
    · rename_i hpassed
      have hlimit : a.limit = some limit := hl
      simpa [kept, Accumulator.passedLimit?, hlimit, Option.filter] using hpassed

end Echo.Policy

/-- A failed read that does not count as the end of the stream is of neither of two kinds. -/
theorem IoFailure.isEndOfStream_eq_false {e : IoFailure} :
    e.isEndOfStream = false ↔ e.kind ≠ .unexpectedEof ∧ e.kind ≠ .permissionDenied := by
  cases hk : e.kind <;> simp [isEndOfStream, hk]

namespace Session

variable {ctx : Context} {s s' : Session} {signal : Signal} {signals : List Signal}
  {effects : List Effect} {id : ConnectionId} {peer : Option Address}

/-! ## Failures -/

/-- The outcome that a passage calls for by a failure: a failed call, or a wait before the session
    is on its way out that took too long. -/
def Passage.failure? (p : Passage) : Option Outcome :=
  match p.signal with
  | .handshake (.error _) => some .handshakeFailed
  | .read (.error e) => if e.isEndOfStream then none else some .readFailed
  | .write (.error _) | .write (.ok 0) | .flush (.error _) => some .writeFailed
  | .timeout => if p.before.isLeaving then none else some .idleTimeout
  | _ => none

@[simp] theorem Passage.failure?_eq_handshakeFailed {p : Passage} :
    p.failure? = some .handshakeFailed ↔ ∃ e, p.signal = .handshake (.error e) := by
  unfold failure?
  split <;> simp_all

@[simp] theorem Passage.failure?_eq_readFailed {p : Passage} :
    p.failure? = some .readFailed ↔ ∃ e, p.signal = .read (.error e) ∧ e.isEndOfStream = false := by
  unfold failure?
  split <;> simp_all

@[simp] theorem Passage.failure?_eq_writeFailed {p : Passage} :
    p.failure? = some .writeFailed ↔ p.signal = .write (.ok 0) ∨
      (∃ e, p.signal = .write (.error e)) ∨ ∃ e, p.signal = .flush (.error e) := by
  unfold failure?
  split <;> simp_all

@[simp] theorem Passage.failure?_eq_idleTimeout {p : Passage} :
    p.failure? = some .idleTimeout ↔ p.signal = .timeout ∧ p.before.isLeaving = false := by
  unfold failure?
  split <;> simp_all

/-- A session that goes on comes to a failure exactly by the first passage that calls for it. -/
theorem outcome?_step (h : Transition ctx s signal s' effects) (hs : s.Coherent)
    (hs' : s'.stage ≠ .ended .abandoned) {outcome : Outcome} (hcompleted : outcome ≠ .completed)
    (hpolicy : outcome ≠ .policyFailed) :
    s'.outcome? = some outcome ↔
      s.outcome? = some outcome ∨ (Passage.mk s signal s').failure? = some outcome := by
  replace hcompleted := hcompleted.symm
  replace hpolicy := hpolicy.symm
  cases h <;> simp_all [outcome?, Passage.failure?, Coherent, isLeaving]

/-- A session that has not been given up has failed if and only if some passage called for it. -/
theorem outcome?_of_run (h : (start ctx id peer).run ctx signals = some (s, effects))
    (hs : s.stage ≠ .ended .abandoned) {outcome : Outcome} (hcompleted : outcome ≠ .completed)
    (hpolicy : outcome ≠ .policyFailed) :
    s.outcome? = some outcome ↔
      ∃ p ∈ (start ctx id peer).passages ctx signals, p.failure? = some outcome := by
  refine run_induction (P := fun signals _ s => s.stage ≠ .ended .abandoned →
    (s.outcome? = some outcome ↔
      ∃ p ∈ (start ctx id peer).passages ctx signals, p.failure? = some outcome)) ?_ ?_ h hs
  · simp [start, outcome?, passages]
  · intro signals effects s₁ signal s₂ more hrun hiff hstep hs₂
    have ht := step_transition hstep
    rw [outcome?_step ht (coherent_of_run hrun) hs₂ hcompleted hpolicy, hiff (stage_ne_ended ht),
      passages_append hrun hstep]
    simp only [List.mem_append, List.mem_singleton, or_and_right, exists_or, exists_eq_left]

/-- Only a configured timeout closes a session as idle. -/
theorem isSome_of_idleTimeout (h : (start ctx id peer).run ctx signals = some (s, effects))
    (hs : s.outcome? = some .idleTimeout) : ctx.idleTimeout.isSome = true := by
  refine run_invariant (P := fun _ _ s => s.outcome? = some .idleTimeout →
    ctx.idleTimeout.isSome = true) (by simp [start, outcome?]) ?_ h hs
  intro signals effects s₁ signal s₂ more hidle ht hs₂
  cases ht <;> simp_all [outcome?]

/-! ## The length of the message -/

/-- Whether a message of so many bytes is too long for the server's echo policy. -/
def Context.TooLong (ctx : Context) (length : Nat) : Prop :=
  ctx.policy = .accumulate ∧ ∃ limit, ctx.accumulateLimit = some limit ∧ limit < length

/-- A session keeps the limit that it began with. -/
theorem limit?_of_run (h : (start ctx id peer).run ctx signals = some (s, effects)) {limit : Nat} :
    s.policy.limit? = some limit ↔
      ctx.policy = .accumulate ∧ ctx.accumulateLimit = some limit := by
  refine run_invariant (P := fun _ _ s => s.policy.limit? = some limit ↔
    ctx.policy = .accumulate ∧ ctx.accumulateLimit = some limit) Echo.Policy.limit?_build ?_ h
  intro signals effects s₁ signal s₂ more hlimit ht
  cases ht with
  | reply hst hp | finish hst hp | keepReading hst hp | refuse hst hp =>
    rwa [← Echo.Policy.limit?_of_process hp] at hlimit
  | _ => exact hlimit

/-- When an accumulating session puts a chunk to its policy, what is kept and the chunk are all that
    was received. -/
theorem received_of_processing (h : (start ctx id peer).run ctx signals = some (s, effects))
    (hk : ctx.policy = .accumulate) {length : Nat} {eof : Bool}
    (hs : s.stage = .processing length eof) :
    receivedBytes signals = s.policy.kept ++ s.buffer.take length := by
  have hsent : sentBytes effects = [] := by
    by_cases hw : sentBytes effects = []
    · exact hw
    · obtain ⟨-, hr | ⟨hl, -⟩⟩ := (holdsBack_of_run hk h).sent_last hw
      · simp [Stage.replying?, hs] at hr
      · simp [isLeaving, hs] at hl
  simpa [hsent, unsent, hs] using (balanced_of_run h).conserved (by simp [isLeaving, hs])

/-- A policy refuses a chunk exactly when the chunk would pass the limit. -/
theorem policyFailed_of_processing (h : Transition ctx s signal s' effects) {length : Nat}
    {eof : Bool} (hs : s.stage = .processing length eof) (hgiven : s'.stage ≠ .ended .abandoned) :
    receivedBytes [signal] = [] ∧ (s'.outcome? = some .policyFailed ↔
      ∃ limit, s.policy.limit? = some limit ∧
        limit < s.policy.kept.length + (s.buffer.take length).length) := by
  cases h with
  | refuse hst hp =>
    obtain ⟨rfl, rfl⟩ := Stage.processing.inj (hst.symm.trans hs)
    exact ⟨rfl, iff_of_true rfl (Echo.Policy.lt_of_process_error hp)⟩
  | reply hst hp | finish hst hp | keepReading hst hp =>
    obtain ⟨rfl, rfl⟩ := Stage.processing.inj (hst.symm.trans hs)
    refine ⟨rfl, iff_of_false nofun ?_⟩
    rintro ⟨limit, hlimit, hlt⟩
    have := Echo.Policy.le_of_process_ok hp hlimit
    omega
  | _ => simp_all

/-- In any other stage nothing is refused. -/
theorem policyFailed_step (h : Transition ctx s signal s' effects)
    (hs : ∀ length eof, s.stage ≠ .processing length eof)
    (hs' : ∀ length eof, s'.stage ≠ .processing length eof)
    (hgiven : s'.stage ≠ .ended .abandoned) :
    receivedBytes [signal] = [] ∧
      (s'.outcome? = some .policyFailed ↔ s.outcome? = some .policyFailed) := by
  cases h <;> simp_all [receivedBytes, outcome?]

/-- Whether a session has been refused is a matter of how much it has received, unless it is just
    weighing a chunk, or has been given up. -/
theorem policyFailed_of_run (h : (start ctx id peer).run ctx signals = some (s, effects))
    (hs : ∀ length eof, s.stage ≠ .processing length eof) (hgiven : s.stage ≠ .ended .abandoned) :
    s.outcome? = some .policyFailed ↔ ctx.TooLong (receivedBytes signals).length := by
  refine run_induction (P := fun signals _ s => (∀ length eof, s.stage ≠ .processing length eof) →
    s.stage ≠ .ended .abandoned →
    (s.outcome? = some .policyFailed ↔ ctx.TooLong (receivedBytes signals).length)) ?_ ?_ h hs
      hgiven
  · simp [start, outcome?, receivedBytes, Context.TooLong]
  · intro signals effects s₁ signal s₂ more hrun hiff hstep hs₂ hgiven₂
    have ht := step_transition hstep
    by_cases hs₁ : ∃ length eof, s₁.stage = .processing length eof
    · obtain ⟨length, eof, hst⟩ := hs₁
      obtain ⟨hnone, hrefused⟩ := policyFailed_of_processing ht hst hgiven₂
      rw [hrefused, receivedBytes_append, hnone, List.append_nil]
      simp only [limit?_of_run hrun, Context.TooLong, and_assoc, exists_and_left]
      -- only an accumulating session keeps all that it received
      refine and_congr_right fun hk => ?_
      rw [received_of_processing hrun hk hst, List.length_append]
    · have hs₁ : ∀ length eof, s₁.stage ≠ .processing length eof :=
        fun length eof hst => hs₁ ⟨length, eof, hst⟩
      obtain ⟨hnone, hsame⟩ := policyFailed_step ht hs₁ hs₂ hgiven₂
      rw [hsame, receivedBytes_append, hnone, List.append_nil, hiff hs₁ (stage_ne_ended ht)]

/-! ## Every run of a session -/

/-- What the outcome of a session that has ended by itself tells about its run. -/
structure Outcome.Tells (ctx : Context) (passages : List Passage) (signals : List Signal)
    (outcome : Outcome) : Prop where
  handshakeFailed : outcome = .handshakeFailed ↔ ∃ e, .handshake (.error e) ∈ signals
  readFailed : outcome = .readFailed ↔ ∃ e, .read (.error e) ∈ signals ∧
    e.kind ≠ .unexpectedEof ∧ e.kind ≠ .permissionDenied
  writeFailed : outcome = .writeFailed ↔ .write (.ok 0) ∈ signals ∨
    (∃ e, .write (.error e) ∈ signals) ∨ ∃ e, .flush (.error e) ∈ signals
  policyFailed : outcome = .policyFailed ↔ ctx.TooLong (receivedBytes signals).length
  idleTimeout : outcome = .idleTimeout ↔ ctx.idleTimeout.isSome = true ∧ ∃ p ∈ passages,
    p.signal = .timeout ∧ (p.before.stage = .awaitingHandshake ∨ p.before.stage = .awaitingRead)

/-- Before a session is on its way out, it is the handshake or a read that may take too long. -/
theorem isLeaving_of_timeout (h : Transition ctx s .timeout s' effects) :
    s.isLeaving = false ↔ s.stage = .awaitingHandshake ∨ s.stage = .awaitingRead := by
  cases h <;> simp_all [isLeaving]

/-- The outcome of a session that has ended by itself tells what happened to it. -/
theorem tells_of_run (h : (start ctx id peer).run ctx signals = some (s, effects))
    {outcome : Outcome} (hs : s.stage = .ended (.finished outcome)) :
    outcome.Tells ctx ((start ctx id peer).passages ctx signals) signals := by
  have ho : s.outcome? = some outcome := by simp [outcome?, hs]
  have hgiven : s.stage ≠ .ended .abandoned := by simp [hs]
  have hfailed : ∀ o, o ≠ .completed → o ≠ .policyFailed → (outcome = o ↔
      ∃ p ∈ (start ctx id peer).passages ctx signals, p.failure? = some o) := by
    intro o hcompleted hpolicy
    rw [← outcome?_of_run h hgiven hcompleted hpolicy, ho, Option.some.injEq]
  constructor
  case handshakeFailed =>
    rw [hfailed .handshakeFailed (by decide) (by decide)]
    simp only [Passage.failure?_eq_handshakeFailed, mem_signals_iff h]
    grind
  case readFailed =>
    rw [hfailed .readFailed (by decide) (by decide)]
    simp only [Passage.failure?_eq_readFailed, mem_signals_iff h, IoFailure.isEndOfStream_eq_false]
    grind
  case writeFailed =>
    rw [hfailed .writeFailed (by decide) (by decide)]
    simp only [Passage.failure?_eq_writeFailed, mem_signals_iff h]
    grind
  case policyFailed =>
    rw [← policyFailed_of_run h (by simp [hs]) hgiven, ho, Option.some.injEq]
  case idleTimeout =>
    have hwait : outcome = .idleTimeout ↔ ∃ p ∈ (start ctx id peer).passages ctx signals,
        p.signal = .timeout ∧
          (p.before.stage = .awaitingHandshake ∨ p.before.stage = .awaitingRead) := by
      rw [hfailed .idleTimeout (by decide) (by decide)]
      refine exists_congr fun p => and_congr_right fun hp => ?_
      obtain ⟨effects, ht⟩ := transition_of_mem_passages hp
      rw [Passage.failure?_eq_idleTimeout]
      exact and_congr_right fun htimeout => isLeaving_of_timeout (htimeout ▸ ht)
    rw [← hwait]
    exact ⟨fun hidle => ⟨isSome_of_idleTimeout h (ho.trans (congrArg some hidle)), hidle⟩,
      And.right⟩

/-- Whatever happens to a session, it holds what its stage calls for, closes in order, and, if it
    ends by itself, ends with the outcome that tells what happened. -/
theorem orderly_and_tells_of_run (ctx : Context) (id : ConnectionId) (peer : Option Address)
    (signals : List Signal) (s : Session) (effects : List Effect)
    (h : (start ctx id peer).run ctx signals = some (s, effects)) :
    Orderly ctx ((start ctx id peer).passages ctx signals) signals effects s ∧
    ∀ outcome, s.stage = .ended (.finished outcome) →
      outcome.Tells ctx ((start ctx id peer).passages ctx signals) signals :=
  ⟨orderly_of_run h, fun _ hs => tells_of_run h hs⟩

/-- Settings under which a message may have three bytes. -/
def threeBytes : Context :=
  { policy := .accumulate, accumulateLimit := some 3, idleTimeout := some (.ofSeconds 5) }

/-- Two chunks of which the second one passes the limit, and a peer that does not answer when the
    stream is shut down. -/
def tooLong : List Signal :=
  [.go, .go, .handshake (.ok ()), .go, .read (.ok [104, 105]), .go, .go, .read (.ok [104, 105]),
    .go, .go, .timeout]

theorem orderly_and_tells_of_run_tooLong :
    ∃ s effects, (start threeBytes ⟨7⟩ none).run threeBytes tooLong = some (s, effects) ∧
      s.stage = .ended (.finished .policyFailed) ∧ dropsFirst effects = true ∧
      threeBytes.TooLong (receivedBytes tooLong).length := by
  obtain ⟨horderly, htells⟩ :=
    orderly_and_tells_of_run threeBytes ⟨7⟩ none tooLong _ _ rfl
  refine ⟨_, _, rfl, rfl, horderly.dropped ?_ ?_, (htells _ rfl).policyFailed.1 rfl⟩
  · decide
  · intro p hp hgiven
    have : .abandon ∈ tooLong := (mem_signals_iff rfl).2 ⟨p, hp, hgiven⟩
    simp [tooLong] at this

end Session

end TlsEcho
