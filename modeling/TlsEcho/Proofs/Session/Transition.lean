import TlsEcho.Session.Step

/-!
# The transitions of a session

`Transition` lists what a session can do, one constructor for each way to leave a stage, with the
session afterwards and the effects.  `step_transition` says that `step` does nothing else, so that a
property of all steps is proved by cases on `Transition` and no proof opens `step` again, and
`step_of_transition` that it does all of this.

`run_invariant` takes a property of single steps to whole runs.  The property may speak of the
signals and effects so far.  `run_induction` does the same for a step that is known to continue a
run, so that what holds of all runs can be used in it.
-/

namespace TlsEcho.Session

variable {ctx : Context} {s s' : Session} {signal : Signal} {effects : List Effect}

/-! ## Sessions in another stage -/

/-- Another stage is entered, and all that a session holds stays as it is. -/
@[simp] theorem enter_stage (s : Session) (st : Stage) : (s.enter st).stage = st := rfl
@[simp] theorem enter_hasSocket (s : Session) (st : Stage) :
    (s.enter st).hasSocket = s.hasSocket := rfl
@[simp] theorem enter_hasStream (s : Session) (st : Stage) :
    (s.enter st).hasStream = s.hasStream := rfl
@[simp] theorem enter_counted (s : Session) (st : Stage) : (s.enter st).counted = s.counted := rfl
@[simp] theorem enter_policy (s : Session) (st : Stage) : (s.enter st).policy = s.policy := rfl

/-! ## Transitions -/

/-- What a session can do on a signal: the session afterwards and the effects. -/
inductive Transition (ctx : Context) (s : Session) : Signal → Session → List Effect → Prop
  | greet : s.stage = .accepted → Transition ctx s .go (s.enter .handshaking) [s.greeting]
  | beginHandshake : s.stage = .handshaking → s.hasSocket = true →
      Transition ctx s .go { s.enter .awaitingHandshake with hasSocket := false }
        [s.note .debug "handshake attempt" [], .handshakeBegun]
  | missSocket : s.stage = .handshaking → s.hasSocket = false →
      Transition ctx s .go (s.enter (.closing .handshakeFailed)) []
  | beginRead : s.stage = .reading → s.hasStream = true →
      Transition ctx s .go (s.enter .awaitingRead) []
  | missReadStream : s.stage = .reading → s.hasStream = false →
      Transition ctx s .go (s.enter (.closing .readFailed)) []
  /-- The policy answers with bytes. -/
  | reply {length eof reply policy} : s.stage = .processing length eof →
      s.policy.process (s.buffer.take length) eof = (.ok reply, policy) → reply.bytes ≠ [] →
      Transition ctx s .go
        ({ s with policy }.enter (.writing reply.bytes reply.atEnd))
        [s.wireNote "received" [⟨"eof", toString eof⟩] (s.buffer.take length)]
  /-- The policy has nothing to write and ends the connection. -/
  | finish {length eof reply policy} : s.stage = .processing length eof →
      s.policy.process (s.buffer.take length) eof = (.ok reply, policy) → reply.bytes = [] →
      reply.atEnd = true →
      Transition ctx s .go ({ s with policy }.enter (.closing .completed))
        [s.wireNote "received" [⟨"eof", toString eof⟩] (s.buffer.take length)]
  /-- The policy has nothing to write yet. -/
  | keepReading {length eof reply policy} : s.stage = .processing length eof →
      s.policy.process (s.buffer.take length) eof = (.ok reply, policy) → reply.bytes = [] →
      reply.atEnd = false →
      Transition ctx s .go ({ s with policy }.enter .reading)
        [s.wireNote "received" [⟨"eof", toString eof⟩] (s.buffer.take length)]
  /-- The policy refuses the chunk. -/
  | refuse {length eof e policy} : s.stage = .processing length eof →
      s.policy.process (s.buffer.take length) eof = (.error e, policy) →
      Transition ctx s .go ({ s with policy }.enter (.closing .policyFailed))
        [s.wireNote "received" [⟨"eof", toString eof⟩] (s.buffer.take length),
         s.note .warn "message rejected" [⟨"error", e.message⟩]]
  | beginWrite {bytes atEnd} : s.stage = .writing bytes atEnd → s.hasStream = true → bytes ≠ [] →
      Transition ctx s .go (s.enter (.awaitingWrite bytes 0 atEnd)) []
  | writeNothing {atEnd} : s.stage = .writing [] atEnd → s.hasStream = true →
      Transition ctx s .go (s.enter (.awaitingFlush [] atEnd)) []
  | missWriteStream {bytes atEnd} : s.stage = .writing bytes atEnd → s.hasStream = false →
      Transition ctx s .go (s.enter (.closing .writeFailed)) []
  | beginShutdown {outcome} : s.stage = .closing outcome → s.hasStream = true →
      Transition ctx s .go { s.enter (.awaitingShutdown outcome) with hasStream := false } []
  /-- There is no stream to shut down. -/
  | leave {outcome} : s.stage = .closing outcome → s.hasStream = false →
      Transition ctx s .go
        { s.enter (.ended (.finished outcome)) with hasSocket := false, counted := false }
        [s.note .info "connection closed" [⟨"outcome", outcome.name⟩], .left s.counted]
  | shakeHands : s.stage = .awaitingHandshake →
      Transition ctx s (.handshake (.ok ()))
        { s.enter .reading with hasStream := true, counted := true } [.joined]
  | failHandshake {e} : s.stage = .awaitingHandshake →
      Transition ctx s (.handshake (.error e)) (s.enter (.closing .handshakeFailed))
        [.dropped,
         s.note .warn "handshake failed" [⟨"error", (TransportError.handshake e.text).message⟩]]
  /-- A read of no bytes. -/
  | readEnd : s.stage = .awaitingRead →
      Transition ctx s (.read (.ok [])) (s.enter (.processing 0 true)) []
  | readChunk {data} : s.stage = .awaitingRead → data ≠ [] → data.length ≤ readSize →
      Transition ctx s (.read (.ok data))
        { s.enter (.processing data.length false) with
            buffer := data ++ s.buffer.drop data.length }
        [.received data, s.note .debug "message received" [⟨"bytes", toString data.length⟩]]
  /-- A failed read that counts as the end of the stream. -/
  | readCut {e} : s.stage = .awaitingRead → e.isEndOfStream = true →
      Transition ctx s (.read (.error e)) (s.enter (.processing 0 true))
        [s.note .debug "peer ended the stream" [⟨"error", e.text⟩]]
  | failRead {e} : s.stage = .awaitingRead → e.isEndOfStream = false →
      Transition ctx s (.read (.error e)) (s.enter (.closing .readFailed))
        [s.note .warn "read failed" [⟨"error", e.text⟩]]
  /-- The stream takes no bytes of a write. -/
  | writeZero {bytes written atEnd} : s.stage = .awaitingWrite bytes written atEnd →
      Transition ctx s (.write (.ok 0)) (s.enter (.closing .writeFailed))
        [s.note .warn "write failed" [⟨"error", IoFailure.writeZero.text⟩]]
  | writeSome {bytes written atEnd n} : s.stage = .awaitingWrite bytes written atEnd → n ≠ 0 →
      written + n < bytes.length →
      Transition ctx s (.write (.ok n)) (s.enter (.awaitingWrite bytes (written + n) atEnd))
        [.sent ((bytes.drop written).take n)]
  | writeRest {bytes written atEnd n} : s.stage = .awaitingWrite bytes written atEnd → n ≠ 0 →
      written + n = bytes.length →
      Transition ctx s (.write (.ok n)) (s.enter (.awaitingFlush bytes atEnd))
        [.sent ((bytes.drop written).take n)]
  | failWrite {bytes written atEnd e} : s.stage = .awaitingWrite bytes written atEnd →
      Transition ctx s (.write (.error e)) (s.enter (.closing .writeFailed))
        [s.note .warn "write failed" [⟨"error", e.text⟩]]
  | flushLast {bytes} : s.stage = .awaitingFlush bytes true →
      Transition ctx s (.flush (.ok ())) (s.enter (.closing .completed))
        [s.note .debug "bytes sent to client" [⟨"bytes", toString bytes.length⟩],
         s.wireNote "sent" [] bytes]
  | flush {bytes} : s.stage = .awaitingFlush bytes false →
      Transition ctx s (.flush (.ok ())) (s.enter .reading)
        [s.note .debug "bytes sent to client" [⟨"bytes", toString bytes.length⟩],
         s.wireNote "sent" [] bytes]
  | failFlush {bytes atEnd e} : s.stage = .awaitingFlush bytes atEnd →
      Transition ctx s (.flush (.error e)) (s.enter (.closing .writeFailed))
        [s.note .warn "write failed" [⟨"error", e.text⟩]]
  | shutDown {outcome} : s.stage = .awaitingShutdown outcome →
      Transition ctx s (.shutdown (.ok ()))
        { s.enter (.ended (.finished outcome)) with hasSocket := false, counted := false }
        [.dropped, s.note .info "connection closed" [⟨"outcome", outcome.name⟩], .left s.counted]
  | failShutdown {outcome e} : s.stage = .awaitingShutdown outcome →
      Transition ctx s (.shutdown (.error e))
        { s.enter (.ended (.finished outcome)) with hasSocket := false, counted := false }
        [s.note .debug "shutdown failed" [⟨"error", e.text⟩], .dropped,
         s.note .info "connection closed" [⟨"outcome", outcome.name⟩], .left s.counted]
  | stallShutdown {outcome} : s.stage = .awaitingShutdown outcome →
      Transition ctx s .timeout
        { s.enter (.ended (.finished outcome)) with hasSocket := false, counted := false }
        [s.note .debug "shutdown timed out" [], .dropped,
         s.note .info "connection closed" [⟨"outcome", outcome.name⟩], .left s.counted]
  | stallHandshake {limit} : s.stage = .awaitingHandshake → ctx.idleTimeout = some limit →
      Transition ctx s .timeout (s.enter (.closing .idleTimeout))
        [.dropped,
         s.note .info "handshake stalled, closing" [⟨"timeout_ms", toString limit.shownMillis⟩]]
  | idle {limit} : s.stage = .awaitingRead → ctx.idleTimeout = some limit →
      Transition ctx s .timeout (s.enter (.closing .idleTimeout))
        [s.note .info "connection idle, closing" [⟨"timeout_ms", toString limit.shownMillis⟩]]
  /-- The session is given up while a call holds its socket or stream. -/
  | abandonCall : s.stage = .awaitingHandshake ∨ (∃ outcome, s.stage = .awaitingShutdown outcome) →
      Transition ctx s .abandon
        { s.enter (.ended .abandoned) with
            hasSocket := false, hasStream := false, counted := false }
        [.dropped, .left s.counted]
  /-- The session is given up in any other stage. -/
  | abandon : s.isOver = false → s.stage ≠ .awaitingHandshake →
      (∀ outcome, s.stage ≠ .awaitingShutdown outcome) →
      Transition ctx s .abandon
        { s.enter (.ended .abandoned) with
            hasSocket := false, hasStream := false, counted := false }
        ([.left s.counted] ++ if s.hasSocket || s.hasStream then [.dropped] else [])

/-! ## Every step is a transition -/

/-- The answer of the policy decides between a reply, the end, another read and a refusal. -/
private theorem process_transition {length : Nat} {eof : Bool}
    (hs : s.stage = .processing length eof) (h : s.process length eof = (s', effects)) :
    Transition ctx s .go s' effects := by
  cases hp : s.policy.process (s.buffer.take length) eof with
  | mk answer policy =>
    simp only [process, hp] at h
    cases answer with
    | error e =>
      obtain ⟨rfl, rfl⟩ := h
      exact .refuse hs hp
    | ok reply =>
      simp only at h
      -- an empty reply says whether it is the last one, any other one is written first
      split at h
      · rename_i hb
        obtain ⟨rfl, rfl⟩ := h
        exact .reply hs hp hb
      · rename_i hb
        have hb : reply.bytes = [] := Decidable.of_not_not hb
        split at h <;> rename_i he <;> obtain ⟨rfl, rfl⟩ := h
        · exact .finish hs hp hb he
        · exact .keepReading hs hp hb (eq_false_of_ne_true he)

/-- What a session does of its own accord. -/
private theorem proceed_transition (h : s.proceed = some (s', effects)) :
    Transition ctx s .go s' effects := by
  unfold proceed at h
  cases hs : s.stage with
  | accepted =>
    simp only [hs] at h
    obtain ⟨rfl, rfl⟩ := h
    exact .greet hs
  | handshaking =>
    simp only [hs] at h
    split at h <;> rename_i hheld <;> obtain ⟨rfl, rfl⟩ := h
    · exact .beginHandshake hs hheld
    · exact .missSocket hs (eq_false_of_ne_true hheld)
  | reading =>
    simp only [hs] at h
    split at h <;> rename_i hheld <;> obtain ⟨rfl, rfl⟩ := h
    · exact .beginRead hs hheld
    · exact .missReadStream hs (eq_false_of_ne_true hheld)
  | processing length eof =>
    simp only [hs, Option.some.injEq] at h
    exact process_transition hs h
  | writing bytes atEnd =>
    simp only [hs] at h
    split at h <;> rename_i hheld
    · split at h <;> rename_i hb <;> obtain ⟨rfl, rfl⟩ := h
      · subst hb
        exact .writeNothing hs hheld
      · exact .beginWrite hs hheld hb
    · obtain ⟨rfl, rfl⟩ := h
      exact .missWriteStream hs (eq_false_of_ne_true hheld)
  | closing outcome =>
    simp only [hs] at h
    split at h <;> rename_i hheld <;> obtain ⟨rfl, rfl⟩ := h
    · exact .beginShutdown hs hheld
    · exact .leave hs (eq_false_of_ne_true hheld)
  | awaitingHandshake | awaitingRead | awaitingWrite | awaitingFlush | awaitingShutdown | ended =>
    -- these stages wait for something, or for nothing any more
    simp [hs] at h

/-- A read that succeeds brings bytes or the end of the stream. -/
private theorem readDone_transition {data : Bytes} (hs : s.stage = .awaitingRead)
    (hlen : data.length ≤ readSize) (h : s.readDone (.ok data) = (s', effects)) :
    Transition ctx s (.read (.ok data)) s' effects := by
  simp only [readDone] at h
  split at h <;> rename_i hd <;> obtain ⟨rfl, rfl⟩ := h
  · subst hd
    exact .readEnd hs
  · exact .readChunk hs hd hlen

/-- A read that fails is the end of the stream or a failure. -/
private theorem readFailed_transition {e : IoFailure} (hs : s.stage = .awaitingRead)
    (h : s.readDone (.error e) = (s', effects)) :
    Transition ctx s (.read (.error e)) s' effects := by
  simp only [readDone] at h
  split at h <;> rename_i he <;> obtain ⟨rfl, rfl⟩ := h
  · exact .readCut hs he
  · exact .failRead hs (eq_false_of_ne_true he)

/-- A write that succeeds takes nothing, a part or all of what is left. -/
private theorem writeDone_transition {bytes : Bytes} {written n : Nat} {atEnd : Bool}
    (hs : s.stage = .awaitingWrite bytes written atEnd) (hn : n ≤ bytes.length - written)
    (h : s.writeDone bytes written atEnd (.ok n) = (s', effects)) :
    Transition ctx s (.write (.ok n)) s' effects := by
  cases n with
  | zero =>
    obtain ⟨rfl, rfl⟩ := h
    exact .writeZero hs
  | succ n =>
    -- the stream takes no more than is left, so not less than all means all
    simp only [writeDone] at h
    split at h <;> rename_i hw <;> obtain ⟨rfl, rfl⟩ := h
    · exact .writeSome hs (by omega) hw
    · exact .writeRest hs (by omega) (by omega)

/-- After a flush the session reads on, unless that was the last answer. -/
private theorem flushDone_transition {bytes : Bytes} {atEnd : Bool}
    {result : Except IoFailure Unit} (hs : s.stage = .awaitingFlush bytes atEnd)
    (h : s.flushDone bytes atEnd result = (s', effects)) :
    Transition ctx s (.flush result) s' effects := by
  cases result with
  | error e =>
    obtain ⟨rfl, rfl⟩ := h
    exact .failFlush hs
  | ok =>
    cases atEnd <;> obtain ⟨rfl, rfl⟩ := h
    · exact .flush hs
    · exact .flushLast hs

/-- Handshake and read time out only under an idle timeout, the closing of the stream always. -/
private theorem timedOut_transition (h : s.timedOut ctx = some (s', effects)) :
    Transition ctx s .timeout s' effects := by
  unfold timedOut at h
  cases hs : s.stage with
  | awaitingHandshake =>
    simp only [hs, Option.map_eq_some_iff] at h
    obtain ⟨limit, hlimit, ⟨rfl, rfl⟩⟩ := h
    exact .stallHandshake hs hlimit
  | awaitingRead =>
    simp only [hs, Option.map_eq_some_iff] at h
    obtain ⟨limit, hlimit, ⟨rfl, rfl⟩⟩ := h
    exact .idle hs hlimit
  | awaitingShutdown outcome =>
    simp only [hs] at h
    obtain ⟨rfl, rfl⟩ := h
    exact .stallShutdown hs
  | _ => simp [hs] at h

/-- A session is given up wherever it stands, and drops what it holds or what the call has taken. -/
private theorem abandoned_transition (h : s.abandoned = some (s', effects)) :
    Transition ctx s .abandon s' effects := by
  unfold abandoned at h
  cases hs : s.stage with
  | ended ending => simp [hs] at h
  | awaitingHandshake =>
    simp only [hs] at h
    obtain ⟨rfl, rfl⟩ := h
    exact .abandonCall (.inl hs)
  | awaitingShutdown outcome =>
    simp only [hs] at h
    obtain ⟨rfl, rfl⟩ := h
    exact .abandonCall (.inr ⟨outcome, hs⟩)
  | _ =>
    simp only [hs] at h
    obtain ⟨rfl, rfl⟩ := h
    exact .abandon (by simp [isOver, hs]) (by simp [hs]) (by simp [hs])

/-- A step is one of the transitions. -/
theorem step_transition (h : s.step ctx signal = some (s', effects)) :
    Transition ctx s signal s' effects := by
  unfold step at h
  -- the cases are the lines of the definition, in their order
  split at h
  · exact proceed_transition h
  · exact timedOut_transition h
  · exact abandoned_transition h
  · rename_i result hs
    obtain _ | _ := result <;> obtain ⟨rfl, rfl⟩ := h
    · exact .failHandshake hs
    · exact .shakeHands hs
  · rename_i data hs
    split at h
    · exact readDone_transition hs ‹_› (Option.some.inj h)
    · exact nomatch h
  · exact readFailed_transition ‹_› (Option.some.inj h)
  · rename_i n bytes written atEnd hs
    split at h
    · exact writeDone_transition hs ‹_› (Option.some.inj h)
    · exact nomatch h
  · obtain ⟨rfl, rfl⟩ := h
    exact .failWrite ‹_›
  · exact flushDone_transition ‹_› (Option.some.inj h)
  · rename_i result outcome hs
    obtain _ | _ := result <;> obtain ⟨rfl, rfl⟩ := h
    · exact .failShutdown hs
    · exact .shutDown hs
  · exact nomatch h

/-! ## Every transition is a step -/

/-- A session takes every transition when it gets the signal for it. -/
theorem step_of_transition (h : Transition ctx s signal s' effects) :
    s.step ctx signal = some (s', effects) := by
  cases h with
  | refuse hst hp =>
    simp only [step, proceed, hst, process, hp]
    rfl
  | @writeSome bytes written atEnd n hst hn hlt =>
    obtain ⟨m, rfl⟩ := Nat.exists_eq_succ_of_ne_zero hn
    have hle : m + 1 ≤ bytes.length - written := by omega
    simp only [step, hst, writeDone, if_pos hle, if_pos hlt]
  | @writeRest bytes written atEnd n hst hn heq =>
    obtain ⟨m, rfl⟩ := Nat.exists_eq_succ_of_ne_zero hn
    have hle : m + 1 ≤ bytes.length - written := by omega
    have hnot : ¬ written + (m + 1) < bytes.length := by omega
    simp only [step, hst, writeDone, if_pos hle, if_neg hnot]
  | abandonCall hst =>
    obtain hst | ⟨outcome, hst⟩ := hst <;> simp [step, abandoned, hst]
  | abandon ho hhandshake hshutdown =>
    cases hst : s.stage <;> simp_all [step, abandoned, isOver]
  | _ =>
    simp_all [step, proceed, process, close, leave, handshakeDone, readDone, writeDone,
      writeFailure, flushDone, shutdownDone, timedOut, enter]

/-- A session can be given up as long as it is not over. -/
theorem exists_step_abandon (ctx : Context) (h : s.isOver = false) :
    ∃ s' effects, s.step ctx .abandon = some (s', effects) := by
  cases hst : s.stage with
  | awaitingHandshake => exact ⟨_, _, step_of_transition (.abandonCall (.inl hst))⟩
  | awaitingShutdown outcome =>
    exact ⟨_, _, step_of_transition (.abandonCall (.inr ⟨outcome, hst⟩))⟩
  | _ => exact ⟨_, _, step_of_transition (.abandon h (by simp [hst]) (by simp [hst]))⟩

/-! ## Runs -/

/-- A run of at least one signal is a step followed by a run. -/
theorem run_cons_eq_some {rest : List Signal} :
    s.run ctx (signal :: rest) = some (s', effects) ↔
      ∃ s₁ first later, s.step ctx signal = some (s₁, first) ∧
        s₁.run ctx rest = some (s', later) ∧ effects = first ++ later := by
  cases hstep : s.step ctx signal with
  | none => simp [run, hstep]
  | some out =>
    obtain ⟨s₁, first⟩ := out
    simp only [run, hstep, Option.map_eq_some_iff, Option.some.injEq, Prod.mk.injEq]
    constructor
    · rintro ⟨⟨s₂, later⟩, hrest, rfl, rfl⟩
      exact ⟨s₁, first, later, ⟨rfl, rfl⟩, hrest, rfl⟩
    · rintro ⟨_, _, later, ⟨rfl, rfl⟩, hrest, rfl⟩
      exact ⟨(s', later), hrest, rfl, rfl⟩

/-- A run of two sequences of signals is a run of the first one followed by a run of the second. -/
theorem run_append_eq_some {first later : List Signal} :
    s.run ctx (first ++ later) = some (s', effects) ↔
      ∃ s₁ before after, s.run ctx first = some (s₁, before) ∧
        s₁.run ctx later = some (s', after) ∧ effects = before ++ after := by
  induction first generalizing s effects with
  | nil =>
    constructor
    · exact fun h => ⟨s, [], effects, rfl, h, rfl⟩
    · rintro ⟨_, _, _, ⟨rfl, rfl⟩, h, rfl⟩
      exact h
  | cons signal rest ih =>
    simp only [List.cons_append, run_cons_eq_some, ih]
    constructor
    · rintro ⟨s₁, one, _, hstep, ⟨s₂, before, after, hrest, hlater, rfl⟩, rfl⟩
      exact ⟨s₂, one ++ before, after, ⟨s₁, one, before, hstep, hrest, rfl⟩, hlater,
        (List.append_assoc ..).symm⟩
    · rintro ⟨s₂, _, after, ⟨s₁, one, before, hstep, hrest, rfl⟩, hlater, rfl⟩
      exact ⟨s₁, one, before ++ after, hstep, ⟨s₂, before, after, hrest, hlater, rfl⟩,
        List.append_assoc ..⟩

/-- A run of one signal is a step. -/
theorem run_singleton : s.run ctx [signal] = s.step ctx signal := by
  cases hstep : s.step ctx signal <;> simp [run, hstep]

/-- `run_induction` for a run that continues another one. -/
private theorem run_induction_from {s₀ : Session}
    {P : List Signal → List Effect → Session → Prop}
    (hstep : ∀ signals effects s signal s' more, s₀.run ctx signals = some (s, effects) →
      P signals effects s → s.step ctx signal = some (s', more) →
      P (signals ++ [signal]) (effects ++ more) s')
    (before : List Signal) (done : List Effect) (signals : List Signal)
    (hbefore : s₀.run ctx before = some (s, done)) (hs : P before done s)
    (h : s.run ctx signals = some (s', effects)) : P (before ++ signals) (done ++ effects) s' := by
  -- what has happened before the run is carried along, so that the property may speak of it
  induction signals generalizing s before done effects with
  | nil =>
    obtain ⟨rfl, rfl⟩ := h
    simpa using hs
  | cons signal rest ih =>
    obtain ⟨s₁, first, later, h₁, hrest, rfl⟩ := run_cons_eq_some.1 h
    have hbefore₁ : s₀.run ctx (before ++ [signal]) = some (s₁, done ++ first) :=
      run_append_eq_some.2 ⟨s, done, first, hbefore, run_singleton.trans h₁, rfl⟩
    simpa using ih _ _ hbefore₁ (hstep _ _ _ _ _ _ hbefore hs h₁) hrest

/-- What holds at the start and is kept by every step that continues a run holds after every run. -/
theorem run_induction {P : List Signal → List Effect → Session → Prop} {signals : List Signal}
    {s₀ : Session} (hstart : P [] [] s₀)
    (hstep : ∀ signals effects s signal s' more, s₀.run ctx signals = some (s, effects) →
      P signals effects s → s.step ctx signal = some (s', more) →
      P (signals ++ [signal]) (effects ++ more) s')
    (h : s₀.run ctx signals = some (s, effects)) : P signals effects s := by
  simpa using run_induction_from hstep [] [] signals rfl hstart h

/-- What holds at the start and is kept by every transition holds after every run. -/
theorem run_invariant {P : List Signal → List Effect → Session → Prop}
    {signals : List Signal} (hstart : P [] [] s)
    (hstep : ∀ signals effects s signal s' more, P signals effects s →
      Transition ctx s signal s' more → P (signals ++ [signal]) (effects ++ more) s')
    (h : s.run ctx signals = some (s', effects)) : P signals effects s' :=
  run_induction hstart
    (fun _ _ _ _ _ _ _ hs h₁ => hstep _ _ _ _ _ _ hs (step_transition h₁)) h

end TlsEcho.Session
