import TlsEcho.Proofs.Session.Outcome

/-!
# How a message arrives

A peer's message may arrive in chunks of any sizes.  An `Arrival` of a message is one way in which
it does, and a session that answers the peer depends on the message alone: its outcome and the bytes
that it writes are those that the echo policy calls for (`Context.answer`), whatever the chunks are.

The session comes to this end.  As long as it has not, the message goes on to arrive
(`Arrival.Brings.exists_next`), and every stage has a rank that a step lowers unless it reads or
sends (`rank_step`), so that no run is longer than its reads and the bytes that it has sent allow.
-/

namespace TlsEcho.Session

variable {ctx : Context} {s s' : Session} {signal : Signal} {signals : List Signal}
  {effects : List Effect} {id : ConnectionId} {peer : Option Address} {m : Bytes}

/-! ## Reads -/

/-- What the reads of a run came to. -/
def readResults (signals : List Signal) : List (Except IoFailure Bytes) :=
  signals.filterMap fun
    | .read result => some result
    | _ => none

/-- The bytes that a read has returned. -/
def readBytes : Except IoFailure Bytes → Bytes
  | .ok data => data
  | .error _ => []

/-- Whether a read says that the peer has ended its side. -/
def endsStream : Except IoFailure Bytes → Bool
  | .ok data => data.isEmpty
  | .error e => e.isEndOfStream

@[simp] theorem readResults_append (a b : List Signal) :
    readResults (a ++ b) = readResults a ++ readResults b := by
  simp [readResults]

/-- What was received are the bytes of the reads, in their order. -/
theorem receivedBytes_eq (signals : List Signal) :
    receivedBytes signals = (readResults signals).flatMap readBytes := by
  induction signals with
  | nil => rfl
  | cons signal rest ih =>
    simp only [receivedBytes, readResults] at ih ⊢
    cases signal with
    | read result => cases result <;> simp [readBytes, ih]
    | _ => simpa using ih

/-- The end of the stream was seen if a read brought it. -/
theorem sawEnd_eq (signals : List Signal) :
    sawEnd signals = (readResults signals).any endsStream := by
  induction signals with
  | nil => rfl
  | cons signal rest ih =>
    simp only [sawEnd, readResults] at ih ⊢
    cases signal with
    | read result => cases result <;> simp [endsStream, ih]
    | _ => simpa using ih

/-! ## Arrivals -/

/-- One way in which a message may arrive: the chunks that single reads return, and the read that
    tells that the peer has ended its side. -/
structure Arrival (m : Bytes) where
  chunks : List Bytes
  last : Except IoFailure Bytes
  flatten_chunks : chunks.flatten = m
  chunk_ne_nil : ∀ c ∈ chunks, c ≠ []
  length_chunk_le : ∀ c ∈ chunks, c.length ≤ readSize
  endsStream_last : endsStream last = true

namespace Arrival

variable {a : Arrival m}

/-- What the reads come to, one after the other. -/
def reads (a : Arrival m) : List (Except IoFailure Bytes) := a.chunks.map .ok ++ [a.last]

/-- Whether a run is one in which the message arrives in this way: the reads are these, as far as
    the run goes, no call fails, no wait takes too long, and the session is not given up. -/
structure Brings (a : Arrival m) (ctx : Context) (s : Session) (signals : List Signal) : Prop where
  reads : readResults signals <+: a.reads
  unfailing : ∀ p ∈ s.passages ctx signals, p.failure? = none
  kept : .abandon ∉ signals

/-- The reads of an arrival bring the message. -/
theorem flatMap_reads (a : Arrival m) : a.reads.flatMap readBytes = m := by
  have hlast : readBytes a.last = [] := by
    have hends := a.endsStream_last
    cases h : a.last with
    | ok data => simpa [h, endsStream, readBytes] using hends
    | error e => rfl
  have hchunks : (a.chunks.map .ok).flatMap readBytes = a.chunks.flatten := by
    rw [List.flatMap_map, ← List.flatMap_id]
    rfl
  rw [reads, List.flatMap_append, hchunks, a.flatten_chunks, List.flatMap_singleton, hlast,
    List.append_nil]

/-- A chunk is not empty, so no chunk looks like the end. -/
theorem endsStream_of_mem_chunks {r : Except IoFailure Bytes} (h : r ∈ a.chunks.map .ok) :
    endsStream r = false := by
  obtain ⟨c, hc, rfl⟩ := List.mem_map.1 h
  simpa [endsStream] using a.chunk_ne_nil c hc

/-- As long as the message arrives, a part from its start was received. -/
theorem Brings.received_prefix (hb : a.Brings ctx s signals) : receivedBytes signals <+: m := by
  obtain ⟨rest, hrest⟩ := hb.reads
  rw [receivedBytes_eq, ← a.flatMap_reads, ← hrest, List.flatMap_append]
  exact List.prefix_append _ _

/-- The end of the stream is seen by the last read and by no earlier one. -/
theorem Brings.sawEnd_iff (hb : a.Brings ctx s signals) :
    sawEnd signals = true ↔ readResults signals = a.reads := by
  rw [sawEnd_eq]
  constructor
  · intro hend
    -- short of the last read there are only chunks, and none of them ends the stream
    refine (List.prefix_concat_iff.1 hb.reads).resolve_right fun hearly => ?_
    obtain ⟨r, hr, hends⟩ := List.any_eq_true.1 hend
    have hgoes := endsStream_of_mem_chunks (hearly.mem hr)
    exact absurd hends (by simp [hgoes])
  · intro hall
    simp [hall, Arrival.reads, a.endsStream_last]

/-- Once the end was seen, all of the message was received. -/
theorem Brings.received_eq (hb : a.Brings ctx s signals) (hend : sawEnd signals = true) :
    receivedBytes signals = m := by
  rw [receivedBytes_eq, hb.sawEnd_iff.1 hend, a.flatMap_reads]

end Arrival

/-! ## The answer -/

/-- How a session ends that receives the message, and what it writes. -/
def Context.answer (ctx : Context) (m : Bytes) : Outcome × Bytes :=
  match ctx.policy, ctx.accumulateLimit with
  | .accumulate, some limit =>
    if limit < m.length then (.policyFailed, []) else (.completed, m)
  | _, _ => (.completed, m)

/-- A message that is too long is refused, and nothing is answered. -/
theorem Context.answer_of_tooLong (h : ctx.TooLong m.length) :
    ctx.answer m = (.policyFailed, []) := by
  obtain ⟨hpolicy, limit, hlimit, hlt⟩ := h
  simp [answer, hpolicy, hlimit, hlt]

/-- Any other message is echoed. -/
theorem Context.answer_of_not_tooLong (h : ¬ctx.TooLong m.length) :
    ctx.answer m = (.completed, m) := by
  unfold answer
  split
  · rename_i limit hpolicy hlimit
    have hle : ¬limit < m.length := fun hlt => h ⟨hpolicy, limit, hlimit, hlt⟩
    rw [if_neg hle]
  · rfl

/-- What is no shorter than a message that is too long is too long as well. -/
theorem Context.TooLong.mono {n k : Nat} (h : ctx.TooLong n) (hle : n ≤ k) : ctx.TooLong k := by
  obtain ⟨hpolicy, limit, hlimit, hlt⟩ := h
  exact ⟨hpolicy, limit, hlimit, Nat.lt_of_lt_of_le hlt hle⟩

/-- A session that drains has seen the end of the stream, unless it leaves for another reason than
    that it has completed. -/
theorem sawEnd_of_isDraining (h : (start ctx id peer).run ctx signals = some (s, effects))
    (hs : s.isDraining = true) (ho : s.isLeaving = true → s.outcome? = some .completed) :
    sawEnd signals = true := by
  refine run_invariant (P := fun signals _ s => s.isDraining = true →
    (s.isLeaving = true → s.outcome? = some .completed) → sawEnd signals = true) ?_ ?_ h hs ho
  · simp [start, isDraining]
  · intro signals effects s₁ signal s₂ more hsaw ht hs₂ ho₂
    rw [sawEnd_append, Bool.or_eq_true]
    cases ht with
    | reply hst hp | finish hst hp | keepReading hst hp =>
      have := Echo.Policy.atEnd_of_process hp
      simp_all [isDraining, isLeaving, outcome?]
    | _ => simp_all [isDraining, isLeaving, outcome?, sawEnd]

/-- A policy that accumulates refuses before anything was sent. -/
theorem sentBytes_of_policyFailed (hk : ctx.policy = .accumulate)
    (h : (start ctx id peer).run ctx signals = some (s, effects))
    (ho : s.stage = .ended (.finished .policyFailed)) : sentBytes effects = [] := by
  by_cases hw : sentBytes effects = []
  · exact hw
  · -- what is sent belongs to the last reply, which a refused message does not get
    obtain ⟨-, hr | ⟨-, ho'⟩⟩ := (holdsBack_of_run hk h).sent_last hw
    · simp [ho, Stage.replying?] at hr
    · simp [ho, outcome?] at ho'

/-- A session that a message has been brought to ends as the policy calls for. -/
theorem Arrival.Brings.answer {a : Arrival m}
    (h : (start ctx id peer).run ctx signals = some (s, effects))
    (hb : a.Brings ctx (start ctx id peer) signals) {outcome : Outcome}
    (hs : s.stage = .ended (.finished outcome)) : (outcome, sentBytes effects) = ctx.answer m := by
  have ho : s.outcome? = some outcome := by simp [outcome?, hs]
  have hrefused : outcome = .policyFailed ↔ ctx.TooLong (receivedBytes signals).length := by
    rw [← policyFailed_of_run h (by simp [hs]) (by simp [hs]), ho, Option.some.injEq]
  by_cases hp : outcome = .policyFailed
  · subst hp
    -- what was read is too long already, and the message is no shorter
    have hle := List.IsPrefix.length_le hb.received_prefix
    have hlong : ctx.TooLong m.length := (hrefused.1 rfl).mono hle
    rw [Context.answer_of_tooLong hlong, sentBytes_of_policyFailed hlong.1 h hs]
  · -- nothing has failed, so the session has completed and has seen the end of the stream
    have hc : outcome = .completed := by
      refine Decidable.byContradiction fun hc => ?_
      obtain ⟨p, hmem, hfails⟩ := (outcome?_of_run h (by simp [hs]) hc hp).1 ho
      simp [hb.unfailing p hmem] at hfails
    subst hc
    have hm : receivedBytes signals = m :=
      hb.received_eq (sawEnd_of_isDraining h (by simp [isDraining, hs]) fun _ => ho)
    rw [hm] at hrefused
    rw [Context.answer_of_not_tooLong (mt hrefused.2 hp), (balanced_of_run h).completed ho, hm]

/-! ## The end of a session -/

/-- How many steps a session may still take without reading or sending anything. -/
def Stage.rank : Stage → Nat
  | .accepted => 11
  | .handshaking => 10
  | .awaitingHandshake => 9
  | .reading => 8
  | .awaitingRead => 7
  | .processing _ eof => if eof then 6 else 12
  | .writing _ atEnd => if atEnd then 5 else 11
  | .awaitingWrite _ _ atEnd => if atEnd then 4 else 10
  | .awaitingFlush _ atEnd => if atEnd then 3 else 9
  | .closing _ => 2
  | .awaitingShutdown _ => 1
  | .ended _ => 0

/-- A session that is not over has a step left. -/
theorem rank_pos (hs : s.isOver = false) : 0 < s.stage.rank := by
  unfold Stage.rank
  split <;> grind [isOver]

/-- A step brings the session nearer to its end, if it neither reads nor sends. -/
theorem rank_step (h : Transition ctx s signal s' effects) :
    s'.stage.rank + 1 ≤
      s.stage.rank + 6 * (readResults [signal]).length + (sentBytes effects).length := by
  cases h with
  | reply hst hp | keepReading hst hp | finish hst hp =>
    -- the reply is the last one exactly if the end of the stream is being processed
    have hatEnd := Echo.Policy.atEnd_of_process hp
    grind [Stage.rank, enter_stage]
  | @writeSome bytes written atEnd n hst hn hlt =>
    -- the session stays in its stage, but something is sent
    have hlength : ((bytes.drop written).take n).length = n := by
      rw [List.length_take, List.length_drop]
      omega
    have hsent : (sentBytes [.sent ((bytes.drop written).take n)]).length = n := by
      simpa [sentBytes] using hlength
    rw [hsent, hst, enter_stage]
    simp only [Stage.rank]
    omega
  | abandonCall hst =>
    obtain hst | ⟨_, hst⟩ := hst <;> simp only [hst, enter_stage, Stage.rank] <;> omega
  | abandon hover =>
    cases hst : s.stage <;> simp_all [Stage.rank, isOver] <;> grind
  | _ => simp_all [Stage.rank, readResults] <;> grind

/-- A run has no more steps than its reads and the bytes that it has sent allow. -/
theorem length_le_of_run (h : (start ctx id peer).run ctx signals = some (s, effects)) :
    signals.length + s.stage.rank ≤
      11 + 6 * (readResults signals).length + (sentBytes effects).length := by
  refine run_invariant (P := fun signals effects s => signals.length + s.stage.rank ≤
    11 + 6 * (readResults signals).length + (sentBytes effects).length) ?_ ?_ h
  · exact Nat.le_refl 11
  · intro signals effects s₁ signal s₂ more hle ht
    have hstep := rank_step ht
    simp only [readResults_append, sentBytes_append, List.length_append, List.length_singleton]
    omega

/-- A session ends as abandoned only if it was given up. -/
theorem abandon_mem_of_run (h : (start ctx id peer).run ctx signals = some (s, effects))
    (hs : s.stage = .ended .abandoned) : .abandon ∈ signals := by
  refine run_invariant (P := fun signals _ s => s.stage = .ended .abandoned → .abandon ∈ signals)
    (by simp [start]) ?_ h hs
  intro signals effects s₁ signal s₂ more hgiven ht hs₂
  cases ht <;> simp_all

/-- While a reply is being written, some of it is left. -/
theorem lt_length_of_run (h : (start ctx id peer).run ctx signals = some (s, effects))
    {bytes : Bytes} {written : Nat} {atEnd : Bool}
    (hs : s.stage = .awaitingWrite bytes written atEnd) : written < bytes.length := by
  refine run_invariant (P := fun _ _ s => ∀ bytes written atEnd,
    s.stage = .awaitingWrite bytes written atEnd → written < bytes.length) (by simp [start]) ?_ h
      _ _ _ hs
  intro signals effects s₁ signal s₂ more hleft ht bytes written atEnd hs₂
  cases ht with
  | beginWrite hst hstream hb =>
    obtain ⟨rfl, rfl, -⟩ := Stage.awaitingWrite.inj hs₂
    exact List.length_pos_iff.2 hb
  | writeSome hst hn hlt =>
    obtain ⟨rfl, rfl, -⟩ := Stage.awaitingWrite.inj hs₂
    exact hlt
  | _ => simp_all

namespace Arrival

variable {a : Arrival m}

/-- A run in which the message arrives goes on so by a step that fails at nothing. -/
theorem Brings.exists_snoc (hb : a.Brings ctx s signals)
    (h : s.run ctx signals = some (s', effects)) (hstep : (s'.step ctx signal).isSome)
    (hreads : readResults signals ++ readResults [signal] <+: a.reads)
    (hfails : (Passage.mk s' signal s').failure? = none) (hkept : signal ≠ .abandon) :
    ∃ signal, (s.run ctx (signals ++ [signal])).isSome ∧ a.Brings ctx s (signals ++ [signal]) := by
  obtain ⟨⟨s₁, more⟩, hstep⟩ := Option.isSome_iff_exists.1 hstep
  have hrun : s.run ctx (signals ++ [signal]) = some (s₁, effects ++ more) :=
    run_append_eq_some.2 ⟨s', effects, more, h, run_singleton.trans hstep, rfl⟩
  refine ⟨signal, by simp [hrun], ?_, ?_, ?_⟩
  · rwa [readResults_append]
  · rw [passages_append h hstep]
    simp only [List.mem_append, List.mem_singleton]
    rintro p (hp | rfl)
    · exact hb.unfailing p hp
    · exact hfails
  · simp only [List.mem_append, List.mem_singleton, not_or]
    exact ⟨hb.kept, hkept.symm⟩

/-- A session that waits for bytes is brought the next ones. -/
theorem Brings.exists_read (hb : a.Brings ctx s signals) (hend : sawEnd signals = false) :
    ∃ result, readResults signals ++ [result] <+: a.reads ∧
      (∀ data, result = .ok data → data.length ≤ readSize) ∧
      ∀ e, result = .error e → e.isEndOfStream = true := by
  obtain ⟨rest, hrest⟩ := hb.reads
  cases rest with
  | nil =>
    have hall : sawEnd signals = true := hb.sawEnd_iff.2 (by simpa using hrest)
    exact absurd hall (by simp [hend])
  | cons result rest =>
    refine ⟨result, ⟨rest, by simpa using hrest⟩, ?_⟩
    have hmem : result ∈ a.chunks.map .ok ++ [a.last] := by
      change result ∈ a.reads
      simp [← hrest]
    obtain hmem | hmem := List.mem_append.1 hmem
    · obtain ⟨c, hc, rfl⟩ := List.mem_map.1 hmem
      refine ⟨fun data hdata => ?_, by simp⟩
      obtain rfl := Except.ok.inj hdata
      exact a.length_chunk_le c hc
    · obtain rfl := List.mem_singleton.1 hmem
      have hends := a.endsStream_last
      constructor
      · intro data hdata
        simp_all [endsStream]
      · intro e he
        simpa [he, endsStream] using hends

/-- As long as a session is not over, the message goes on to arrive. -/
theorem Brings.exists_next (hb : a.Brings ctx (start ctx id peer) signals)
    (h : (start ctx id peer).run ctx signals = some (s, effects)) (hs : s.isOver = false) :
    ∃ signal, ((start ctx id peer).run ctx (signals ++ [signal])).isSome ∧
      a.Brings ctx (start ctx id peer) (signals ++ [signal]) := by
  -- all signals but a read leave the reads as they are
  have hreads : readResults signals ++ [] <+: a.reads := by
    simpa using hb.reads
  cases hst : s.stage with
  | awaitingHandshake =>
    have hstep : (s.step ctx (.handshake (.ok ()))).isSome := by simp [step, hst]
    exact hb.exists_snoc h hstep hreads rfl (by simp)
  | awaitingRead =>
    have hend : sawEnd signals = false := by
      refine eq_false_of_ne_true fun hend => ?_
      simpa [isDraining, hst] using isDraining_of_run h hend
    obtain ⟨result, hnext, hfits, hends⟩ := hb.exists_read hend
    cases result with
    | ok data =>
      have hstep : (s.step ctx (.read (.ok data))).isSome := by simp [step, hst, hfits data rfl]
      exact hb.exists_snoc h hstep hnext rfl (by simp)
    | error e =>
      have hstep : (s.step ctx (.read (.error e))).isSome := by simp [step, hst]
      exact hb.exists_snoc h hstep hnext (if_pos (hends e rfl)) (by simp)
  | awaitingWrite bytes written atEnd =>
    -- the stream takes all that is left, which is not nothing
    obtain ⟨n, hn⟩ := Nat.exists_eq_add_of_lt (lt_length_of_run h hst)
    have hstep : (s.step ctx (.write (.ok (n + 1)))).isSome := by
      have hle : n + 1 ≤ bytes.length - written := by omega
      simp [step, hst, hle]
    exact hb.exists_snoc h hstep hreads rfl (by simp)
  | awaitingFlush bytes atEnd =>
    have hstep : (s.step ctx (.flush (.ok ()))).isSome := by simp [step, hst]
    exact hb.exists_snoc h hstep hreads rfl (by simp)
  | awaitingShutdown outcome =>
    have hstep : (s.step ctx (.shutdown (.ok ()))).isSome := by simp [step, hst]
    exact hb.exists_snoc h hstep hreads rfl (by simp)
  | ended ending => simp [isOver, hst] at hs
  | _ =>
    -- the other stages wait for nothing
    have hstep : (s.step ctx .go).isSome := by
      simp only [step, proceed, hst]
      grind
    exact hb.exists_snoc h hstep hreads rfl (by simp)

/-- A run in which the message arrives is no longer than the message and its chunks allow. -/
theorem Brings.length_le (hb : a.Brings ctx (start ctx id peer) signals)
    (h : (start ctx id peer).run ctx signals = some (s, effects)) :
    signals.length + s.stage.rank ≤ 17 + 6 * a.chunks.length + m.length := by
  have hreads : (readResults signals).length ≤ a.chunks.length + 1 := by
    simpa [Arrival.reads] using hb.reads.length_le
  have hbalanced := balanced_of_run h
  have hsent : (sentBytes effects).length ≤ m.length :=
    Nat.le_trans (List.IsPrefix.length_le hbalanced.sent_prefix)
      (List.IsPrefix.length_le hb.received_prefix)
  have hrun := length_le_of_run h
  omega

/-- A run in which the message arrives can be continued until the session is over. -/
theorem Brings.exists_over (hb : a.Brings ctx (start ctx id peer) signals)
    (h : ((start ctx id peer).run ctx signals).isSome) :
    ∃ signals s effects, (start ctx id peer).run ctx signals = some (s, effects) ∧
      a.Brings ctx (start ctx id peer) signals ∧ s.isOver = true := by
  -- the induction is on the steps that the bound leaves
  induction hn : 17 + 6 * a.chunks.length + m.length - signals.length using Nat.strongRecOn
    generalizing signals with
  | ind n ih =>
    obtain ⟨⟨s, effects⟩, hrun⟩ := Option.isSome_iff_exists.1 h
    cases hs : s.isOver with
    | true => exact ⟨signals, s, effects, hrun, hb, hs⟩
    | false =>
      obtain ⟨signal, hnext, hbnext⟩ := hb.exists_next hrun hs
      have hle := hb.length_le hrun
      have hpos := rank_pos hs
      refine ih _ ?_ hbnext hnext rfl
      rw [List.length_append, List.length_singleton]
      omega

/-- A session to which the message arrives in this way ends with the outcome and has sent the
    bytes. -/
def Yields (a : Arrival m) (ctx : Context) (id : ConnectionId) (peer : Option Address)
    (outcome : Outcome) (sent : Bytes) : Prop :=
  ∃ signals s effects, (start ctx id peer).run ctx signals = some (s, effects) ∧
    a.Brings ctx (start ctx id peer) signals ∧ s.stage = .ended (.finished outcome) ∧
    sentBytes effects = sent

/-- A session ends with the answer to the message, and with nothing else. -/
theorem yields_iff {outcome : Outcome} {sent : Bytes} :
    a.Yields ctx id peer outcome sent ↔ (outcome, sent) = ctx.answer m := by
  constructor
  · rintro ⟨signals, s, effects, h, hb, hs, rfl⟩
    exact hb.answer h hs
  · intro heq
    have hstart : a.Brings ctx (start ctx id peer) [] :=
      ⟨List.nil_prefix, by simp [passages], by simp⟩
    obtain ⟨signals, s, effects, h, hb, ho⟩ := hstart.exists_over rfl
    obtain ⟨ending, hs⟩ : ∃ ending, s.stage = .ended ending := by
      unfold isOver at ho
      split at ho
      · exact ⟨_, ‹_›⟩
      · simp at ho
    cases ending with
    | abandoned => exact absurd (abandon_mem_of_run h hs) hb.kept
    | finished o =>
      obtain ⟨rfl, rfl⟩ := Prod.mk.inj (heq.trans (hb.answer h hs).symm)
      exact ⟨signals, s, effects, h, hb, hs, rfl⟩

end Arrival

/-- Two sessions to which the same message arrives end in the same way and send the same bytes,
    those of `Context.answer`, whatever the chunks are.  They do come to this end: as long as a
    session is not over the message goes on to arrive, and no run is longer than the bound. -/
theorem yields_answer_of_arrivals (ctx : Context) (m : Bytes) (a b : Arrival m)
    (id id' : ConnectionId) (peer peer' : Option Address) :
    (∀ outcome sent,
      (a.Yields ctx id peer outcome sent ↔ b.Yields ctx id' peer' outcome sent) ∧
      (a.Yields ctx id peer outcome sent ↔ (outcome, sent) = ctx.answer m)) ∧
    ∀ signals s effects, (start ctx id peer).run ctx signals = some (s, effects) →
      a.Brings ctx (start ctx id peer) signals →
      signals.length ≤ 17 + 6 * a.chunks.length + m.length ∧
      (s.isOver = false → ∃ signal, ((start ctx id peer).run ctx (signals ++ [signal])).isSome ∧
        a.Brings ctx (start ctx id peer) (signals ++ [signal])) := by
  refine ⟨fun outcome sent => ⟨?_, Arrival.yields_iff⟩, fun signals s effects h hb => ⟨?_, ?_⟩⟩
  · rw [Arrival.yields_iff, Arrival.yields_iff]
  · exact Nat.le_trans (Nat.le_add_right _ _) (hb.length_le h)
  · exact hb.exists_next h

/-- Four bytes in two equal chunks, and a peer that ends its side in order. -/
def inTwoChunks : Arrival [104, 105, 104, 105] where
  chunks := [[104, 105], [104, 105]]
  last := .ok []
  flatten_chunks := rfl
  chunk_ne_nil := by decide
  length_chunk_le := by decide
  endsStream_last := rfl

/-- The same bytes at once, and a peer that just goes away. -/
def inOneChunk : Arrival [104, 105, 104, 105] where
  chunks := [[104, 105, 104, 105]]
  last := .error ⟨.unexpectedEof, "unexpected end of file"⟩
  flatten_chunks := rfl
  chunk_ne_nil := by decide
  length_chunk_le := by decide
  endsStream_last := rfl

theorem yields_answer_of_arrivals_threeBytes :
    (inTwoChunks.Yields threeBytes ⟨7⟩ none .policyFailed [] ∧
      inOneChunk.Yields threeBytes ⟨8⟩ none .policyFailed []) ∧
    inTwoChunks.Yields {} ⟨7⟩ none .completed [104, 105, 104, 105] ∧
      inOneChunk.Yields {} ⟨8⟩ none .completed [104, 105, 104, 105] := by
  have hrefused := (yields_answer_of_arrivals threeBytes _ inTwoChunks inOneChunk ⟨7⟩ ⟨8⟩ none
    none).1 .policyFailed []
  have hechoed := (yields_answer_of_arrivals {} _ inTwoChunks inOneChunk ⟨7⟩ ⟨8⟩ none none).1
    .completed [104, 105, 104, 105]
  have htwo := hrefused.2.2 rfl
  have hfour := hechoed.2.2 rfl
  exact ⟨⟨htwo, hrefused.1.1 htwo⟩, hfour, hechoed.1.1 hfour⟩

end TlsEcho.Session
