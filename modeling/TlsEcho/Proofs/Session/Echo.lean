import TlsEcho.Proofs.Session.Transition

/-!
# What a session echoes

The bytes that a session sends are a prefix of those that it received, whatever happens to it, and
all of them once the session has completed.

Every byte that was read and not yet written is in one place: with the policy, in the part of the
buffer that was read last, or in the reply that is being written.  `unsent` names these bytes in
their order, and `unsent_step` is the balance of a single step,

    unsent before ++ received = sent ++ unsent afterwards.

It holds as long as the session is not on its way out.  A session on its way out neither receives
nor sends.
-/

namespace TlsEcho

/-! ## What a policy owes -/

namespace Echo.Policy

variable {p p' : Policy} {chunk : Bytes} {eof : Bool} {reply : Reply}

/-- A reply and what is kept afterwards are what was kept before and the chunk. -/
theorem kept_append_of_process (h : p.process chunk eof = (.ok reply, p')) :
    p.kept ++ chunk = reply.bytes ++ p'.kept := by
  cases p with
  | immediate =>
    obtain ⟨rfl, rfl⟩ := h
    simp [kept]
  | accumulate a =>
    simp only [process, Accumulator.process] at h
    split at h
    · exact nomatch h
    · cases eof <;> obtain ⟨rfl, rfl⟩ := h <;> simp [kept, Reply.pending]

/-- A reply ends the connection exactly when the peer has ended its side. -/
theorem atEnd_of_process (h : p.process chunk eof = (.ok reply, p')) : reply.atEnd = eof := by
  cases p with
  | immediate =>
    obtain ⟨rfl, rfl⟩ := h
    rfl
  | accumulate a =>
    simp only [process, Accumulator.process] at h
    split at h
    · exact nomatch h
    · cases eof <;> obtain ⟨rfl, rfl⟩ := h <;> rfl

/-- A policy that replies with bytes, or for the last time, keeps nothing. -/
theorem kept_eq_nil_of_process (h : p.process chunk eof = (.ok reply, p'))
    (hr : reply.bytes ≠ [] ∨ reply.atEnd = true) : p'.kept = [] := by
  cases p with
  | immediate =>
    obtain ⟨rfl, rfl⟩ := h
    rfl
  | accumulate a =>
    simp only [process, Accumulator.process] at h
    split at h
    · exact nomatch h
    · cases eof <;> obtain ⟨rfl, rfl⟩ := h
      · simp [Reply.pending] at hr
      · rfl

/-- The kind of a policy never changes. -/
theorem kind_of_process {answer : Except PolicyError Reply}
    (h : p.process chunk eof = (answer, p')) : p'.kind = p.kind := by
  cases p <;> obtain ⟨rfl, rfl⟩ := h <;> rfl

/-- The accumulating policy replies with bytes only when the peer has ended its side. -/
theorem bytes_eq_nil_of_process (hk : p.kind = .accumulate)
    (h : p.process chunk false = (.ok reply, p')) : reply.bytes = [] := by
  cases p with
  | immediate => exact nomatch hk
  | accumulate a =>
    simp only [process, Accumulator.process] at h
    split at h
    · exact nomatch h
    · obtain ⟨rfl, rfl⟩ := h
      rfl

/-- The immediate policy keeps nothing. -/
theorem kept_eq_nil (hk : p.kind = .immediate) : p.kept = [] := by
  cases p with
  | immediate => rfl
  | accumulate a => exact nomatch hk

end Echo.Policy

namespace Session

variable {ctx : Context} {s s' : Session} {signal : Signal} {effects : List Effect}

/-! ## Bytes in and out -/

/-- The bytes that came from the peer. -/
def receivedBytes (signals : List Signal) : Bytes :=
  signals.flatMap fun
    | .read (.ok data) => data
    | _ => []

/-- The bytes that the stream took on their way to the peer. -/
def sentBytes (effects : List Effect) : Bytes :=
  effects.flatMap fun
    | .sent bytes => bytes
    | _ => []

/-- Whether the peer has ended its side: a read of no bytes, or one that failed in that way. -/
def sawEnd (signals : List Signal) : Bool :=
  signals.any fun
    | .read (.ok data) => data.isEmpty
    | .read (.error e) => e.isEndOfStream
    | _ => false

/-- Whether a reply is being written in a stage, and if so, whether it is the last one. -/
def Stage.replying? : Stage → Option Bool
  | .writing _ atEnd | .awaitingWrite _ _ atEnd | .awaitingFlush _ atEnd => some atEnd
  | _ => none

/-- The bytes that were read and are still to be written, in order. -/
def unsent (s : Session) : Bytes :=
  match s.stage with
  | .processing length _ => s.policy.kept ++ s.buffer.take length
  | .writing bytes _ => bytes ++ s.policy.kept
  | .awaitingWrite bytes written _ => bytes.drop written ++ s.policy.kept
  | _ => s.policy.kept

@[simp] theorem receivedBytes_append (a b : List Signal) :
    receivedBytes (a ++ b) = receivedBytes a ++ receivedBytes b := by
  simp [receivedBytes]

@[simp] theorem sentBytes_append (a b : List Effect) :
    sentBytes (a ++ b) = sentBytes a ++ sentBytes b := by
  simp [sentBytes]

@[simp] theorem sawEnd_append (a b : List Signal) :
    sawEnd (a ++ b) = (sawEnd a || sawEnd b) := by
  simp [sawEnd]

/-! ## The balance of a step -/

/-- A session that is not on its way out was not on its way out before. -/
theorem isLeaving_of_transition (h : Transition ctx s signal s' effects)
    (hs' : s'.isLeaving = false) : s.isLeaving = false := by
  cases h <;> simp_all [isLeaving]

/-- While a reply is being written the policy keeps nothing. -/
theorem kept_of_transition (h : Transition ctx s signal s' effects)
    (hs : s.stage.replying?.isSome → s.policy.kept = []) :
    s'.stage.replying?.isSome → s'.policy.kept = [] := by
  cases h with
  | reply hst hp hb => exact fun _ => Echo.Policy.kept_eq_nil_of_process hp (.inl hb)
  | _ => simp_all [Stage.replying?]

/-- What was unsent and what is received is sent or unsent afterwards. -/
theorem unsent_step (h : Transition ctx s signal s' effects) (hs' : s'.isLeaving = false) :
    s.unsent ++ receivedBytes [signal] = sentBytes effects ++ s'.unsent := by
  cases h with
  | reply hst hp hb =>
    have := Echo.Policy.kept_append_of_process hp
    simpa [unsent, hst, receivedBytes, sentBytes, wireNote] using this
  | keepReading hst hp hb he =>
    have := Echo.Policy.kept_append_of_process hp
    simpa [unsent, hst, receivedBytes, sentBytes, wireNote, hb] using this
  | writeSome hst hn hlt =>
    -- what is left of the reply is what was taken and what is left afterwards
    simp only [unsent, hst, receivedBytes, sentBytes, enter_stage, enter_policy,
      List.flatMap_cons, List.flatMap_nil, List.append_nil]
    rw [← List.drop_drop, ← List.append_assoc, List.take_append_drop]
  | @writeRest bytes written _ n hst hn heq =>
    -- the stream takes all that is left of the reply
    have hall : (bytes.drop written).take n = bytes.drop written :=
      List.take_of_length_le (by rw [List.length_drop]; omega)
    simp [unsent, hst, receivedBytes, sentBytes, hall]
  | _ => simp_all [unsent, receivedBytes, sentBytes, isLeaving, greeting, note, wireNote]

/-- On its way out a session neither receives nor sends. -/
theorem silent_of_isLeaving (h : Transition ctx s signal s' effects)
    (hs' : s'.isLeaving = true) : receivedBytes [signal] = [] ∧ sentBytes effects = [] := by
  cases h <;> simp_all [receivedBytes, sentBytes, isLeaving, note, wireNote]

/-- A session that comes to a completed end has nothing left to send. -/
theorem unsent_eq_nil_of_completed (h : Transition ctx s signal s' effects)
    (hs : s.stage.replying?.isSome → s.policy.kept = []) (ho : s.outcome? ≠ some .completed)
    (ho' : s'.outcome? = some .completed) : s.isLeaving = false ∧ s.unsent = [] := by
  cases h with
  | finish hst hp hb he =>
    -- the last reply is empty, so the policy kept nothing and the chunk was empty
    have hk := Echo.Policy.kept_append_of_process hp
    rw [hb, Echo.Policy.kept_eq_nil_of_process hp (.inr he)] at hk
    simpa [unsent, isLeaving, hst] using hk
  | flushLast hst =>
    simpa [unsent, isLeaving, hst] using hs (by simp [Stage.replying?, hst])
  | _ => simp_all [outcome?]

/-! ## The balance of a run -/

/-- The balance of a run: what was received is sent or unsent as long as the session is not on its
    way out, and what was sent is a part of it in any case. -/
structure Balanced (received sent : Bytes) (s : Session) : Prop where
  drained : s.stage.replying?.isSome → s.policy.kept = []
  conserved : s.isLeaving = false → received = sent ++ s.unsent
  sent_prefix : sent <+: received
  completed : s.outcome? = some .completed → sent = received

/-- Every transition keeps the balance. -/
private theorem Balanced.step {received sent : Bytes} (hb : Balanced received sent s)
    (h : Transition ctx s signal s' effects) :
    Balanced (received ++ receivedBytes [signal]) (sent ++ sentBytes effects) s' := by
  have hconserved : s'.isLeaving = false →
      received ++ receivedBytes [signal] = sent ++ sentBytes effects ++ s'.unsent := by
    intro hs'
    rw [hb.conserved (isLeaving_of_transition h hs'), List.append_assoc, List.append_assoc,
      unsent_step h hs']
  cases hl : s'.isLeaving with
  | false =>
    -- the session goes on, and what it has sent is what it has received but for the unsent bytes
    refine ⟨kept_of_transition h hb.drained, hconserved, ?_, ?_⟩
    · rw [hconserved hl]
      exact List.prefix_append _ _
    · intro ho
      unfold outcome? at ho
      unfold isLeaving at hl
      split at ho <;> simp_all
  | true =>
    -- nothing is received or sent by the step that makes it leave, nor later
    obtain ⟨hr, hw⟩ := silent_of_isLeaving h hl
    simp only [hr, hw, List.append_nil]
    refine ⟨kept_of_transition h hb.drained, by simp [hl], hb.sent_prefix, fun ho' => ?_⟩
    by_cases ho : s.outcome? = some .completed
    · exact hb.completed ho
    · obtain ⟨hs, hu⟩ := unsent_eq_nil_of_completed h hb.drained ho ho'
      simpa [hu] using (hb.conserved hs).symm

/-! ## Accumulating sessions -/

/-- Only a reply is sent, and the session goes on with the same one. -/
theorem replying_of_sent (h : Transition ctx s signal s' effects) (hw : sentBytes effects ≠ []) :
    s.stage.replying?.isSome ∧ s'.stage.replying? = s.stage.replying? := by
  cases h <;> simp_all [sentBytes, Stage.replying?, greeting, note, wireNote]

/-- After the last reply a session is on its way out, and not because its input was refused. -/
theorem leaving_of_lastReply (h : Transition ctx s signal s' effects)
    (hs : s.stage.replying? = some true) :
    s'.stage.replying? = some true ∨
      (s'.isLeaving = true ∧ s'.outcome? ≠ some .policyFailed) := by
  cases h <;> simp_all [Stage.replying?, isLeaving, outcome?]

/-- A session on its way out stays so, and its outcome stays what it is unless it is given up. -/
theorem leaving_of_leaving (h : Transition ctx s signal s' effects) (hs : s.isLeaving = true) :
    s'.isLeaving = true ∧ (s'.outcome? = s.outcome? ∨ s'.outcome? = none) := by
  cases h <;> simp_all [isLeaving, outcome?]

/-- What an accumulating session never does: send anything before the peer has ended its side, or
    anything at all if the message is refused. -/
structure HoldsBack (ended : Bool) (sent : Bytes) (s : Session) : Prop where
  kind : s.policy.kind = .accumulate
  /-- The end of the stream that is being processed was seen. -/
  eof : ∀ length, s.stage = .processing length true → ended = true
  /-- There is no reply but the last one. -/
  last : ∀ atEnd, s.stage.replying? = some atEnd → atEnd = true ∧ ended = true
  sent_last : sent ≠ [] → ended = true ∧ (s.stage.replying? = some true ∨
    (s.isLeaving = true ∧ s.outcome? ≠ some .policyFailed))

/-- An accumulating policy begins to reply at the end of the stream only. -/
private theorem HoldsBack.last_step {ended : Bool} {sent : Bytes} (hh : HoldsBack ended sent s)
    (h : Transition ctx s signal s' effects) {atEnd : Bool}
    (hs' : s'.stage.replying? = some atEnd) : atEnd = true ∧ ended = true := by
  obtain ⟨kind, eof, last, -⟩ := hh
  cases h with
  | @reply length e reply policy hst hp hb =>
    have ha := Echo.Policy.atEnd_of_process hp
    cases e with
    | true => simp_all [Stage.replying?]
    | false => exact absurd (Echo.Policy.bytes_eq_nil_of_process kind hp) hb
  | _ => simp_all [Stage.replying?]

/-- Every transition keeps the reply held back until then. -/
private theorem HoldsBack.step {ended : Bool} {sent : Bytes} (hh : HoldsBack ended sent s)
    (h : Transition ctx s signal s' effects) :
    HoldsBack (ended || sawEnd [signal]) (sent ++ sentBytes effects) s' := by
  refine ⟨?_, ?_, ?_, ?_⟩
  · have kind := hh.kind
    cases h with
    | reply hst hp | finish hst hp | keepReading hst hp | refuse hst hp =>
      rwa [← Echo.Policy.kind_of_process hp] at kind
    | _ => exact kind
  · have eof := hh.eof
    cases h <;> simp_all [sawEnd]
  · intro atEnd hs'
    obtain ⟨ha, he⟩ := hh.last_step h hs'
    simp [ha, he]
  · intro hw
    by_cases hsent : sent = []
    · -- the first bytes of the reply: they are sent while it is being written
      obtain ⟨hr, hr'⟩ := replying_of_sent h (by simpa [hsent] using hw)
      obtain ⟨atEnd, ha⟩ := Option.isSome_iff_exists.1 hr
      obtain ⟨rfl, he⟩ := hh.last atEnd ha
      exact ⟨by simp [he], .inl (hr'.trans ha)⟩
    · obtain ⟨he, hr | ⟨hl, ho⟩⟩ := hh.sent_last hsent
      · exact ⟨by simp [he], leaving_of_lastReply h hr⟩
      · obtain ⟨hl', ho' | ho'⟩ := leaving_of_leaving h hl
        · exact ⟨by simp [he], .inr ⟨hl', ho' ▸ ho⟩⟩
        · exact ⟨by simp [he], .inr ⟨hl', by simp [ho']⟩⟩

/-! ## Every run of a session -/

/-- Every run keeps the balance. -/
theorem balanced_of_run {id : ConnectionId} {peer : Option Address}
    {signals : List Signal} (h : (start ctx id peer).run ctx signals = some (s, effects)) :
    Balanced (receivedBytes signals) (sentBytes effects) s := by
  refine run_invariant (P := fun signals effects s =>
    Balanced (receivedBytes signals) (sentBytes effects) s) ?_ ?_ h
  · have hkept : (ctx.policy.build ctx.accumulateLimit).kept = [] := by
      cases hp : ctx.policy <;> rfl
    constructor <;>
      simp [start, receivedBytes, sentBytes, unsent, outcome?, Stage.replying?, hkept]
  · intro signals effects s signal s' more hb ht
    simpa using hb.step ht

/-- Every run of an accumulating session holds back. -/
theorem holdsBack_of_run {id : ConnectionId} {peer : Option Address}
    {signals : List Signal} (hk : ctx.policy = .accumulate)
    (h : (start ctx id peer).run ctx signals = some (s, effects)) :
    HoldsBack (sawEnd signals) (sentBytes effects) s := by
  refine run_invariant (P := fun signals effects s =>
    HoldsBack (sawEnd signals) (sentBytes effects) s) ?_ ?_ h
  · constructor <;> simp [start, hk, Echo.PolicyKind.build, Echo.Policy.kind, sentBytes,
      Stage.replying?]
  · intro signals effects s signal s' more hh ht
    simpa using hh.step ht

/-- The kind of the policy never changes. -/
private theorem kind_of_run {id : ConnectionId} {peer : Option Address} {signals : List Signal}
    (h : (start ctx id peer).run ctx signals = some (s, effects)) :
    s.policy.kind = ctx.policy := by
  refine run_invariant (P := fun _ _ s => s.policy.kind = ctx.policy) ?_ ?_ h
  · cases hp : ctx.policy <;> simp [start, hp, Echo.PolicyKind.build, Echo.Policy.kind]
  · intro _ _ s _ s' _ kind ht
    cases ht with
    | reply hst hp | finish hst hp | keepReading hst hp | refuse hst hp =>
      rwa [← Echo.Policy.kind_of_process hp] at kind
    | _ => exact kind

/-- Whatever happens to a session, what it sent is a prefix of what it received, and all of it if
    the session has completed.  An immediate session that reads has sent everything back.  An
    accumulating session sends nothing before the peer has ended its side, and nothing at all if
    the message is refused. -/
theorem sent_prefix_received (ctx : Context) (id : ConnectionId) (peer : Option Address)
    (signals : List Signal) (s : Session) (effects : List Effect)
    (h : (start ctx id peer).run ctx signals = some (s, effects)) :
    sentBytes effects <+: receivedBytes signals ∧
    (s.outcome? = some .completed → sentBytes effects = receivedBytes signals) ∧
    (ctx.policy = .immediate → s.stage = .reading ∨ s.stage = .awaitingRead →
      sentBytes effects = receivedBytes signals) ∧
    (ctx.policy = .accumulate →
      (sawEnd signals = false → sentBytes effects = []) ∧
      (s.outcome? = some .policyFailed → sentBytes effects = [])) := by
  have hb := balanced_of_run h
  refine ⟨hb.sent_prefix, hb.completed, ?_, ?_⟩
  · intro hk hs
    have hkept := Echo.Policy.kept_eq_nil ((kind_of_run h).trans hk)
    have hl : s.isLeaving = false := by rcases hs with hs | hs <;> simp [isLeaving, hs]
    have hu : s.unsent = [] := by rcases hs with hs | hs <;> simp [unsent, hs, hkept]
    simpa [hu] using (hb.conserved hl).symm
  · intro hk
    have hh := holdsBack_of_run hk h
    constructor
    · intro he
      by_cases hw : sentBytes effects = []
      · exact hw
      · exact absurd (hh.sent_last hw).1 (by simp [he])
    · intro ho
      by_cases hw : sentBytes effects = []
      · exact hw
      · obtain ⟨-, hr | ⟨-, ho'⟩⟩ := hh.sent_last hw
        · unfold outcome? at ho
          split at ho <;> simp_all [Stage.replying?]
        · exact absurd ho ho'

/-- Two messages, the second one shorter than the first, which is taken in two writes. -/
def twoMessages : List Signal :=
  [.go, .go, .handshake (.ok ()), .go, .read (.ok [104, 105]), .go, .go, .write (.ok 1),
    .write (.ok 1), .flush (.ok ()), .go, .read (.ok [120]), .go, .go, .write (.ok 1),
    .flush (.ok ()), .go, .read (.ok []), .go, .go, .shutdown (.ok ())]

theorem sent_prefix_received_twoMessages :
    ∃ s effects, (start {} ⟨7⟩ none).run {} twoMessages = some (s, effects) ∧
      s.outcome? = some .completed ∧ sentBytes effects = receivedBytes twoMessages ∧
      receivedBytes twoMessages = [104, 105, 120] :=
  ⟨_, _, rfl, rfl, (sent_prefix_received {} ⟨7⟩ none twoMessages _ _ rfl).2.1 rfl, rfl⟩

end Session

end TlsEcho
