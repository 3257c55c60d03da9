import TlsEcho.Proofs.Connection.Registry
import TlsEcho.Proofs.Session.Transition
import TlsEcho.Session.Occupancy

/-!
# What a session holds

`Coherent` says what a session holds in each of its stages: the socket until the handshake begins,
the stream and a slot of the live counter from the end of the handshake until it closes.

`books` picks the effects that touch the registry and the counter.  A step has at most one of them
(`books_step`): the slot is taken by a successful handshake, and id and slot are given back by the
step that ends the session.  `applyAll_step` is the account of one step: the counter moves by what
the session holds more or less afterwards, and the id is active until the session is over.
-/

namespace TlsEcho

namespace Session

variable {ctx : Context} {s s' : Session} {signal : Signal} {effects : List Effect}

/-- A session holds what its stage says. -/
def Coherent (s : Session) : Prop :=
  match s.stage with
  | .accepted | .handshaking => s.hasSocket = true ∧ s.hasStream = false ∧ s.counted = false
  | .awaitingHandshake => s.hasSocket = false ∧ s.hasStream = false ∧ s.counted = false
  | .closing _ => s.hasSocket = false ∧ s.hasStream = s.counted
  | .awaitingShutdown _ => s.hasSocket = false ∧ s.hasStream = false ∧ s.counted = true
  | .ended _ => s.hasSocket = false ∧ s.hasStream = false ∧ s.counted = false
  | _ => s.hasSocket = false ∧ s.hasStream = true ∧ s.counted = true

/-- A session that has just been accepted holds its socket. -/
theorem coherent_start (ctx : Context) (id : ConnectionId) (peer : Option Address) :
    (start ctx id peer).Coherent := by
  simp [Coherent, start]

/-- Every step takes and gives back what the change of stage calls for. -/
theorem coherent_step (h : Transition ctx s signal s' effects) (hs : s.Coherent) :
    s'.Coherent := by
  cases h <;> simp_all [Coherent]

/-- A session holds what its stage says after every run. -/
theorem coherent_of_run {id : ConnectionId} {peer : Option Address} {signals : List Signal}
    (h : (start ctx id peer).run ctx signals = some (s, effects)) :
    s.Coherent :=
  run_invariant (P := fun _ _ s => s.Coherent) (coherent_start ctx id peer)
    (fun _ _ _ _ _ _ hs ht => coherent_step ht hs) h

/-- A session that is over holds no slot. -/
theorem counted_of_isOver (hs : s.Coherent) (ho : s.isOver = true) : s.counted = false := by
  unfold isOver at ho
  split at ho <;> simp_all [Coherent]

theorem id_step (h : Transition ctx s signal s' effects) : s'.id = s.id := by
  cases h <;> rfl

/-! ## Effects on the registry and the counter -/

/-- The effects that touch the registry or the live counter. -/
def books (effects : List Effect) : List Effect :=
  effects.filter fun
    | .joined | .left _ => true
    | _ => false

@[simp] theorem books_joined_cons (rest : List Effect) :
    books (.joined :: rest) = .joined :: books rest := rfl

@[simp] theorem books_left_cons (counted : Bool) (rest : List Effect) :
    books (.left counted :: rest) = .left counted :: books rest := rfl

/-- Whether a signal says that the handshake has succeeded. -/
def Signal.isHandshake : Signal → Bool
  | .handshake (.ok ()) => true
  | _ => false

/-- Whether an effect says that the session has left. -/
def Effect.isLeft : Effect → Bool
  | .left _ => true
  | _ => false

/-- A step that ends the session gives back the id and the slot, a successful handshake takes a
    slot, and no other step touches the registry or the counter. -/
theorem books_step (h : Transition ctx s signal s' effects) (hs : s.Coherent) :
    (s'.isOver = true ∧ books effects = [.left s.counted]) ∨
    (s'.isOver = false ∧ signal.isHandshake = true ∧ s.counted = false ∧ s'.counted = true ∧
      books effects = [.joined]) ∨
    (s'.isOver = false ∧ signal.isHandshake = false ∧ s'.counted = s.counted ∧
      books effects = []) := by
  cases h <;> simp_all [Coherent, isOver, books, Signal.isHandshake, greeting, note, wireNote]

/-- A session leaves exactly by the step that ends it. -/
theorem isLeft_step (h : Transition ctx s signal s' effects) (hs : s.Coherent) :
    effects.any Effect.isLeft = s'.isOver := by
  have hbooks : effects.any Effect.isLeft = (books effects).any Effect.isLeft := by
    rw [books, List.any_filter]
    congr 1
    funext e
    cases e <;> rfl
  obtain ⟨ho, hb⟩ | ⟨ho, -, -, -, hb⟩ | ⟨ho, -, -, hb⟩ := books_step h hs <;>
    simp [hbooks, hb, ho, Effect.isLeft]

/-- A session that goes on is counted from its successful handshake on. -/
theorem counted_step (h : Transition ctx s signal s' effects) (hs : s.Coherent)
    (ho : s'.isOver = false) : s'.counted = (s.counted || signal.isHandshake) := by
  obtain ⟨ho', -⟩ | ⟨-, hsig, -, hc, -⟩ | ⟨-, hsig, hc, -⟩ := books_step h hs
  · simp [ho] at ho'
  · simp [hc, hsig]
  · simp [hc, hsig]

end Session

/-! ## The account of a step -/

namespace Occupancy

open Session

variable {ctx : Context} {s s' : Session} {signal : Signal} {effects : List Session.Effect}

/-- Whether a record reports that an id was released twice, or that the live counter would have
    become negative. -/
def isFault (r : Log.Record) : Bool :=
  r.message == releasedTwiceMessage || r.message == Admission.LiveCounter.underflowMessage

@[simp] theorem isFault_mk (level : Log.Level) (target message : String) (fields : List Log.Field) :
    isFault ⟨level, target, message, fields⟩ = (message == "connection id released twice" ||
      message == "live connection counter would go negative") := rfl

/-- No session reports such a fault by itself. -/
theorem isFault_step (h : Transition ctx s signal s' effects) :
    ∀ r, Session.Effect.log r ∈ effects → isFault r = false := by
  cases h <;> simp [greeting, note, wireNote]

/-- The registry and the counter depend on the effects on them alone, and so do the faults that are
    found. -/
theorem applyAll_books (o : Occupancy) (id : ConnectionId)
    (hlog : ∀ r, Session.Effect.log r ∈ effects → isFault r = false) :
    (o.applyAll id effects).occupancy = (o.applyAll id (books effects)).occupancy ∧
    (o.applyAll id effects).log.filter isFault =
      (o.applyAll id (books effects)).log.filter isFault := by
  induction effects generalizing o with
  | nil => exact ⟨rfl, rfl⟩
  | cons e rest ih =>
    have hrest := fun o => ih o fun r hr => hlog r (List.mem_cons_of_mem _ hr)
    cases e with
    | joined =>
      obtain ⟨ho, hf⟩ := hrest (o.apply id .joined).occupancy
      exact ⟨ho, by simp [applyAll, hf]⟩
    | left counted =>
      obtain ⟨ho, hf⟩ := hrest (o.apply id (.left counted)).occupancy
      exact ⟨ho, by simp [applyAll, hf]⟩
    | log r =>
      -- the record itself is no fault, so the filter drops it
      obtain ⟨ho, hf⟩ := hrest o
      refine ⟨ho, ?_⟩
      have hr := hlog r (List.mem_cons_self ..)
      simpa [applyAll, apply, books, hr] using hf
    | handshakeBegun | received | sent | dropped => exact hrest o

/-- What a step of a session does to the registry and the counter, if the session's id is active and
    its slot is counted. -/
theorem applyAll_step (h : Transition ctx s signal s' effects) (hs : s.Coherent) (o : Occupancy)
    {id : ConnectionId} (hid : id ∈ o.registry.active)
    (hlive : s.counted = true → 0 < o.live.count) :
    (o.applyAll id effects).occupancy.registry.active =
      (if s'.isOver then o.registry.active.erase id else o.registry.active) ∧
    (o.applyAll id effects).occupancy.live.count + s.counted.toNat =
      o.live.count + s'.counted.toNat ∧
    (o.applyAll id effects).log.filter isFault = [] := by
  obtain ⟨ho, hf⟩ := applyAll_books o id (isFault_step h)
  rw [ho, hf]
  obtain ⟨ho', hb⟩ | ⟨ho', -, hc, hc', hb⟩ | ⟨ho', -, hc, hb⟩ := books_step h hs
  · -- the session leaves, with a slot to give back or without
    have hc' := counted_of_isOver (coherent_step h hs) ho'
    cases hc : s.counted with
    | false =>
      simp [hb, ho', hc, hc', applyAll, apply, leave, giveBack, Registry.release, hid,
        Registry.releaseLog]
    | true =>
      have hpos := hlive hc
      simp [hb, ho', hc, hc', applyAll, apply, leave, giveBack, Registry.release, hid,
        Registry.releaseLog, Admission.LiveCounter.release, Admission.LiveCounter.releaseLog]
      omega
  · simp [hb, ho', hc, hc', applyAll, apply, Admission.LiveCounter.acquire]
  · simp [hb, ho', hc, applyAll]

/-- An effect leaves the counter alone or moves its version. -/
private theorem live_apply (o : Occupancy) (id : ConnectionId) (e : Session.Effect) :
    (o.apply id e).occupancy.live = o.live ∨
      (o.apply id e).occupancy.live.version = o.live.version + 1 := by
  cases e with
  | joined => exact .inr rfl
  | left counted =>
    cases counted <;> simp only [apply, leave] <;> split
    · exact .inl rfl
    · exact .inl rfl
    · exact .inr rfl
    · exact .inr rfl
  | log | handshakeBegun | received | sent | dropped => exact .inl rfl

/-- The version of the counter never goes back, and while it stands still so does the count. -/
theorem live_applyAll (o : Occupancy) (id : ConnectionId) (effects : List Session.Effect) :
    o.live.version ≤ (o.applyAll id effects).occupancy.live.version ∧
    (o.live.version = (o.applyAll id effects).occupancy.live.version →
      (o.applyAll id effects).occupancy.live.count = o.live.count) := by
  induction effects generalizing o with
  | nil => exact ⟨Nat.le_refl _, fun _ => rfl⟩
  | cons e rest ih =>
    obtain ⟨hle, hcount⟩ := ih (o.apply id e).occupancy
    simp only [applyAll]
    obtain hlive | hversion := live_apply o id e
    · rw [hlive] at hle hcount
      exact ⟨hle, hcount⟩
    · rw [hversion] at hle
      exact ⟨by omega, fun heq => by omega⟩

/-- No effect of a session makes an id active. -/
theorem active_applyAll (o : Occupancy) (id : ConnectionId) (effects : List Session.Effect) :
    (o.applyAll id effects).occupancy.registry.active.Sublist o.registry.active := by
  induction effects generalizing o with
  | nil => exact List.Sublist.refl _
  | cons e rest ih =>
    refine (ih _).trans ?_
    cases e with
    | left counted =>
      simp only [apply, leave]
      -- the id is released, or it was not active and nothing is
      split
      · rename_i hrelease
        have hactive := (Registry.active_of_release hrelease).symm ▸ List.erase_sublist
        cases counted <;> exact hactive
      · cases counted <;> exact List.Sublist.refl _
    | log | joined | handshakeBegun | received | sent | dropped => exact List.Sublist.refl _

end Occupancy

end TlsEcho
