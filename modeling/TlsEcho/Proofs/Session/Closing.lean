import TlsEcho.Proofs.Session.Echo
import TlsEcho.Proofs.Session.Resources

/-!
# How a session closes

A run is a list of `Passage`s, one for each step.  `Orderly` says what holds of every run: the
resources that go with a stage, one way into the closing stage, no read after the end of the stream,
and the socket or stream given up before the id.
-/

namespace TlsEcho.Session

variable {ctx : Context} {s s' : Session} {signal : Signal} {signals : List Signal}
  {effects : List Effect} {id : ConnectionId} {peer : Option Address}

/-! ## The passages of a run -/

/-- A step of a run: the session before it, the signal, and the session after it. -/
structure Passage where
  before : Session
  signal : Signal
  after : Session

/-- The steps of a run, in order. -/
def passages (ctx : Context) (s : Session) : List Signal → List Passage
  | [] => []
  | signal :: rest =>
    match s.step ctx signal with
    | none => []
    | some (after, _) => ⟨s, signal, after⟩ :: after.passages ctx rest

/-- A step that continues a run is its last passage. -/
theorem passages_append {s₁ s₂ : Session} {more : List Effect}
    (h : s.run ctx signals = some (s₁, effects)) (hstep : s₁.step ctx signal = some (s₂, more)) :
    s.passages ctx (signals ++ [signal]) = s.passages ctx signals ++ [⟨s₁, signal, s₂⟩] := by
  induction signals generalizing s effects with
  | nil =>
    obtain ⟨rfl, rfl⟩ := h
    simp [passages, hstep]
  | cons signal rest ih =>
    obtain ⟨s', first, later, hfirst, hrest, -⟩ := run_cons_eq_some.1 h
    simp only [List.cons_append, passages, hfirst, ih hrest]

/-- A run has one passage for each signal. -/
theorem signal_passages (h : s.run ctx signals = some (s', effects)) :
    (s.passages ctx signals).map Passage.signal = signals := by
  induction signals generalizing s effects with
  | nil => rfl
  | cons signal rest ih =>
    obtain ⟨s₁, first, later, hfirst, hrest, -⟩ := run_cons_eq_some.1 h
    simp only [passages, hfirst, List.map_cons, ih hrest]

/-- The signals of a run are those of its passages. -/
theorem mem_signals_iff (h : s.run ctx signals = some (s', effects)) :
    signal ∈ signals ↔ ∃ p ∈ s.passages ctx signals, p.signal = signal := by
  conv => lhs; rw [← signal_passages h]
  exact List.mem_map

/-- Every passage is a transition. -/
theorem transition_of_mem_passages {p : Passage} (h : p ∈ s.passages ctx signals) :
    ∃ effects, Transition ctx p.before p.signal p.after effects := by
  induction signals generalizing s with
  | nil => exact nomatch h
  | cons signal rest ih =>
    cases hstep : s.step ctx signal with
    | none => simp [passages, hstep] at h
    | some out =>
      obtain ⟨s₁, effects⟩ := out
      simp only [passages, hstep, List.mem_cons] at h
      obtain rfl | h := h
      · exact ⟨effects, step_transition hstep⟩
      · exact ih h

/-- A session that is over takes no step. -/
theorem isOver_of_transition (h : Transition ctx s signal s' effects) : s.isOver = false := by
  cases h with
  | abandonCall hst => obtain hst | ⟨outcome, hst⟩ := hst <;> simp [isOver, hst]
  | abandon ho => exact ho
  | _ => simp_all [isOver]

theorem stage_ne_ended (h : Transition ctx s signal s' effects) {ending : Ending} :
    s.stage ≠ .ended ending := by
  intro hst
  simpa [isOver, hst] using isOver_of_transition h

/-! ## Closing -/

/-- Whether the session is about to shut its stream down. -/
def isClosing (s : Session) : Bool :=
  match s.stage with
  | .closing _ => true
  | _ => false

/-- A session on its way out does not go to close again. -/
theorem isClosing_of_isLeaving (h : Transition ctx s signal s' effects)
    (hs : s.isLeaving = true) : s'.isClosing = false := by
  cases h <;> simp_all [isLeaving, isClosing]

theorem isLeaving_of_isClosing (h : s.isClosing = true) : s.isLeaving = true := by
  unfold isClosing at h
  split at h <;> simp_all [isLeaving]

/-- A session goes to close once, and not before it is on its way out. -/
theorem countP_isClosing_of_run (h : s.run ctx signals = some (s', effects)) :
    (s.passages ctx signals).countP (·.after.isClosing) ≤ s'.isLeaving.toNat := by
  refine run_induction (P := fun signals _ s' =>
    (s.passages ctx signals).countP (·.after.isClosing) ≤ s'.isLeaving.toNat) ?_ ?_ h
  · simp [passages]
  · intro signals effects s₁ signal s₂ more hrun hcount hstep
    rw [passages_append hrun hstep, List.countP_append, List.countP_singleton]
    have ht := step_transition hstep
    cases hl : s₁.isLeaving with
    | true =>
      have hl' := (leaving_of_leaving ht hl).1
      simpa [isClosing_of_isLeaving ht hl, hl, hl'] using hcount
    | false =>
      -- this is the first passage that may go to close
      rw [hl, Bool.toNat_false, Nat.le_zero] at hcount
      cases hc : s₂.isClosing with
      | true => simp [hcount, isLeaving_of_isClosing hc]
      | false => simp [hcount]

/-- By itself a session goes to close only when the protocol has finished or the policy has refused
    its input: it never misses its socket or stream. -/
theorem closing_of_go (h : Transition ctx s .go s' effects) (hs : s.Coherent) {outcome : Outcome}
    (hs' : s'.stage = .closing outcome) : outcome = .completed ∨ outcome = .policyFailed := by
  cases h <;> simp_all [Coherent]

/-! ## The end of the stream -/

/-- Whether a session reads nothing any more: the end of the stream is being processed, or the last
    reply is being written, or it is on its way out. -/
def isDraining (s : Session) : Bool :=
  match s.stage with
  | .processing _ eof => eof
  | .writing _ atEnd | .awaitingWrite _ _ atEnd | .awaitingFlush _ atEnd => atEnd
  | .closing _ | .awaitingShutdown _ | .ended _ => true
  | _ => false

/-- A session that has seen the end of the stream goes on to its own end. -/
theorem isDraining_step (h : Transition ctx s signal s' effects)
    (hs : s.isDraining = true ∨ sawEnd [signal] = true) : s'.isDraining = true := by
  cases h with
  | reply hst hp | keepReading hst hp hb he =>
    have := Echo.Policy.atEnd_of_process hp
    simp_all [isDraining, sawEnd]
  | _ => obtain hs | hs := hs <;> simp_all [isDraining, sawEnd]

theorem isDraining_of_run (h : s.run ctx signals = some (s', effects))
    (hend : sawEnd signals = true) : s'.isDraining = true := by
  refine run_invariant (P := fun signals _ s' => sawEnd signals = true → s'.isDraining = true)
    (by simp [sawEnd]) ?_ h hend
  intro signals effects s₁ signal s₂ more hdrains ht hend
  rw [sawEnd_append, Bool.or_eq_true] at hend
  exact isDraining_step ht (hend.imp_left hdrains)

/-! ## The stream before the id -/

/-- Whether no id is released before a socket or stream has been dropped. -/
def dropsFirst : List Effect → Bool
  | [] | .dropped :: _ => true
  | .left _ :: _ => false
  | _ :: rest => dropsFirst rest

theorem dropsFirst_of_not_left (h : effects.any Effect.isLeft = false) :
    dropsFirst effects = true := by
  induction effects with
  | nil => rfl
  | cons e rest ih =>
    simp only [List.any_cons, Bool.or_eq_false_iff] at h
    cases e <;> simp_all [dropsFirst, Effect.isLeft]

theorem dropsFirst_append {more : List Effect} (h : effects.any Effect.isLeft = false)
    (hmore : .dropped ∈ effects ∨ dropsFirst more = true) :
    dropsFirst (effects ++ more) = true := by
  induction effects with
  | nil => simpa using hmore
  | cons e rest ih =>
    simp only [List.any_cons, Bool.or_eq_false_iff] at h
    cases e <;> simp_all [dropsFirst, Effect.isLeft]

/-- A session that goes to close without a stream has just dropped its socket. -/
theorem dropped_of_isClosing (h : Transition ctx s signal s' effects) (hs : s.Coherent)
    (hc : s'.isClosing = true) (hstream : s'.hasStream = false) : .dropped ∈ effects := by
  cases h <;> simp_all [Coherent, isClosing]

/-- A step that ends the session drops what it holds first, unless nothing is left to drop, or the
    session is given up elsewhere than in a call. -/
theorem dropsFirst_of_isOver (h : Transition ctx s signal s' effects) (ho : s'.isOver = true) :
    dropsFirst effects = true ∨ (s.isClosing = true ∧ s.hasStream = false) ∨
      (signal = .abandon ∧ (s.isClosing = true ∨ s.isLeaving = false)) := by
  cases h with
  | abandon hover hhandshake hshutdown =>
    refine .inr (.inr ⟨rfl, ?_⟩)
    cases hst : s.stage <;> simp_all [isClosing, isLeaving, isOver]
  | _ => simp_all [isOver, dropsFirst, isClosing, note]

/-- The id is released by the step that ends the session, and not before. -/
theorem isLeft_of_run (h : (start ctx id peer).run ctx signals = some (s, effects)) :
    effects.any Effect.isLeft = s.isOver := by
  refine run_induction (P := fun _ effects s => effects.any Effect.isLeft = s.isOver) rfl ?_ h
  intro signals effects s₁ signal s₂ more hrun hleft hstep
  have ht := step_transition hstep
  rw [List.any_append, hleft, isOver_of_transition ht, isLeft_step ht (coherent_of_run hrun),
    Bool.false_or]

/-- A session that closes has dropped its socket or stream before the id is released, if it was not
    given up right where it began to close. -/
theorem dropsFirst_of_run (h : (start ctx id peer).run ctx signals = some (s, effects))
    (hcloses : ∃ p ∈ (start ctx id peer).passages ctx signals, p.after.isClosing = true)
    (hawaits : ∀ p ∈ (start ctx id peer).passages ctx signals, p.signal = .abandon →
      p.before.isClosing = false) : dropsFirst effects = true := by
  -- the step that ends a session without a stream drops nothing: its socket went when it closed,
  -- which has to be carried along
  refine (run_induction (P := fun signals effects s =>
    (s.isClosing = true → s.hasStream = false → .dropped ∈ effects) ∧
    ((∃ p ∈ (start ctx id peer).passages ctx signals, p.after.isClosing = true) →
      (∀ p ∈ (start ctx id peer).passages ctx signals, p.signal = .abandon →
        p.before.isClosing = false) → dropsFirst effects = true)) ?_ ?_ h).2 hcloses hawaits
  · simp [passages, start, isClosing]
  · rintro signals effects s₁ signal s₂ more hrun ⟨hdropped, -⟩ hstep
    have ht := step_transition hstep
    have hcoherent := coherent_of_run hrun
    refine ⟨fun hc hstream =>
      List.mem_append_right _ (dropped_of_isClosing ht hcoherent hc hstream), ?_⟩
    simp only [passages_append hrun hstep, List.mem_append, List.mem_singleton]
    rintro ⟨p, hp, hc⟩ hawaits
    have hleft : effects.any Effect.isLeft = false :=
      (isLeft_of_run hrun).trans (isOver_of_transition ht)
    refine dropsFirst_append hleft ?_
    cases ho : s₂.isOver with
    | false => exact .inr (dropsFirst_of_not_left ((isLeft_step ht hcoherent).trans ho))
    | true =>
      obtain hfirst | ⟨hc₁, hstream⟩ | ⟨rfl, hgiven⟩ := dropsFirst_of_isOver ht ho
      · exact .inr hfirst
      · exact .inl (hdropped hc₁ hstream)
      · -- a session given up before it was on its way out has not gone to close
        have hl : s₁.isLeaving = false :=
          hgiven.resolve_left (by simpa using hawaits _ (.inr rfl) rfl)
        have hnone := countP_isClosing_of_run hrun
        rw [hl, Bool.toNat_false, Nat.le_zero, List.countP_eq_zero] at hnone
        obtain hp | rfl := hp
        · exact absurd hc (hnone p hp)
        · unfold isClosing at hc
          unfold isOver at ho
          split at hc <;> simp_all

/-! ## Every run of a session -/

/-- Whether a session waits for bytes, has some to process, or writes some back. -/
def isServing (s : Session) : Bool :=
  match s.stage with
  | .reading | .awaitingRead | .processing .. | .writing .. | .awaitingWrite ..
  | .awaitingFlush .. => true
  | _ => false

/-- What holds of every run: `signals` and `effects` are those of the run, and `s` is the session
    afterwards. -/
structure Orderly (ctx : Context) (passages : List Passage) (signals : List Signal)
    (effects : List Effect) (s : Session) : Prop where
  /-- Before and during the handshake there is no stream, and no slot is taken. -/
  unserved : s.stage = .accepted ∨ s.stage = .handshaking ∨ s.stage = .awaitingHandshake →
    s.hasStream = false ∧ s.counted = false
  /-- The handshake starts with the socket. -/
  socket : s.stage = .handshaking → s.hasSocket = true
  /-- From then on the socket is gone, and there are a stream and a slot. -/
  serving : s.isServing = true → s.hasSocket = false ∧ s.hasStream = true ∧ s.counted = true
  /-- The session never goes to close because it misses its socket or its stream. -/
  unmissed : ∀ s' more outcome, s.step ctx .go = some (s', more) → s'.stage = .closing outcome →
    outcome = .completed ∨ outcome = .policyFailed
  /-- The session goes to close at most once. -/
  closes : passages.countP (·.after.isClosing) ≤ 1
  /-- Nothing is read after the end of the stream. -/
  ended : sawEnd signals = true → s.stage ≠ .reading ∧ s.stage ≠ .awaitingRead
  /-- If the session has gone to close, no id is released before the socket or stream is dropped.
      Where it goes to close it waits for nothing, so that it cannot be given up there. -/
  dropped : (∃ p ∈ passages, p.after.isClosing = true) →
    (∀ p ∈ passages, p.signal = .abandon → p.before.isClosing = false) → dropsFirst effects = true

/-- Every run of a session is orderly. -/
theorem orderly_of_run (h : (start ctx id peer).run ctx signals = some (s, effects)) :
    Orderly ctx ((start ctx id peer).passages ctx signals) signals effects s := by
  have hcoherent := coherent_of_run h
  constructor
  case unserved =>
    rintro (hst | hst | hst) <;> simp_all [Coherent]
  case socket =>
    intro hst
    simp_all [Coherent]
  case serving =>
    intro hserving
    unfold isServing at hserving
    split at hserving <;> simp_all [Coherent]
  case unmissed =>
    exact fun s' more outcome hstep => closing_of_go (step_transition hstep) hcoherent
  case closes =>
    exact Nat.le_trans (countP_isClosing_of_run h) (Bool.toNat_le _)
  case ended =>
    intro hend
    have hdraining := isDraining_of_run h hend
    constructor <;> intro hst <;> simp [isDraining, hst] at hdraining
  case dropped =>
    exact dropsFirst_of_run h

end TlsEcho.Session
