import TlsEcho.Proofs.Session.Echo

/-!
# Sessions under other names

The id of a session and the address of its peer only name it: they stand in its records, and no step
depends on them.  So a session comes through the same signals to the same stage under any other
names, and its effects differ in the names alone (`exists_run_rename`).

A session that has ended by itself has said how, once, in its last record (`reported_of_run`).
-/

namespace TlsEcho.Session

variable {ctx : Context} {s s' : Session} {signal : Signal} {signals : List Signal}
  {effects : List Effect} {id : ConnectionId} {peer : Option Address}

/-! ## Names -/

/-- A session under another id and with another peer. -/
def rename (s : Session) (id : ConnectionId) (peer : Option Address) : Session :=
  { s with id, peer }

/-- An effect without the names that stand in it. -/
def Effect.unnamed : Effect → Effect
  | .log r => .log { r with fields := r.fields.filter fun f => f.key ≠ "id" && f.key ≠ "peer" }
  | e => e

/-- A renamed session holds what it held. -/
@[simp] theorem rename_buffer : (s.rename id peer).buffer = s.buffer := rfl
@[simp] theorem rename_counted : (s.rename id peer).counted = s.counted := rfl
@[simp] theorem rename_hasSocket : (s.rename id peer).hasSocket = s.hasSocket := rfl
@[simp] theorem rename_hasStream : (s.rename id peer).hasStream = s.hasStream := rfl

/-- Only the fields that name the session differ in its records. -/
@[simp] theorem unnamed_note {level : Log.Level} {message : String} {fields : List Log.Field} :
    ((s.rename id peer).note level message fields).unnamed =
      (s.note level message fields).unnamed := by
  simp [note, Effect.unnamed]

@[simp] theorem unnamed_wireNote {message : String} {fields : List Log.Field} {data : Bytes} :
    ((s.rename id peer).wireNote message fields data).unnamed =
      (s.wireNote message fields data).unnamed := by
  simp [wireNote, Effect.unnamed]

/-- The greeting names the session like any other record. -/
@[simp] theorem unnamed_greeting :
    (s.rename id peer).greeting.unnamed = s.greeting.unnamed := by
  simp [greeting, note, Effect.unnamed, rename]

/-- A session can do the same under any names. -/
theorem Transition.rename (h : Transition ctx s signal s' effects) (id : ConnectionId)
    (peer : Option Address) :
    ∃ effects', Transition ctx (s.rename id peer) signal (s'.rename id peer) effects' ∧
      effects'.map Effect.unnamed = effects.map Effect.unnamed := by
  cases h with
  -- the same signal takes a session from other stages to where these lead, so they are named
  | idle hst hlimit => exact ⟨_, .idle hst hlimit, by simp⟩
  | abandonCall hst => exact ⟨_, .abandonCall hst, by simp⟩
  | abandon ho hhandshake hshutdown => exact ⟨_, .abandon ho hhandshake hshutdown, by simp⟩
  | _ => exact ⟨_, by constructor <;> assumption, by simp⟩

/-- A session that is run under other names comes to the same stage, and does the same but for the
    names. -/
theorem exists_run_rename (h : s.run ctx signals = some (s', effects)) (id : ConnectionId)
    (peer : Option Address) :
    ∃ effects', (s.rename id peer).run ctx signals = some (s'.rename id peer, effects') ∧
      effects'.map Effect.unnamed = effects.map Effect.unnamed := by
  induction signals generalizing s effects with
  | nil =>
    obtain ⟨rfl, rfl⟩ := h
    exact ⟨[], rfl, rfl⟩
  | cons signal rest ih =>
    obtain ⟨s₁, first, later, hstep, hrest, rfl⟩ := run_cons_eq_some.1 h
    obtain ⟨first', ht, hfirst⟩ := (step_transition hstep).rename id peer
    obtain ⟨later', hrest', hlater⟩ := ih hrest
    refine ⟨first' ++ later',
      run_cons_eq_some.2 ⟨_, first', later', step_of_transition ht, hrest', rfl⟩, ?_⟩
    rw [List.map_append, List.map_append, hfirst, hlater]

/-- The bytes that a session sends are the same under any names. -/
theorem sentBytes_map_unnamed (effects : List Effect) :
    sentBytes (effects.map Effect.unnamed) = sentBytes effects := by
  rw [sentBytes, sentBytes, List.flatMap_map]
  congr 1
  funext e
  cases e <;> rfl

/-! ## What is said at the end -/

/-- The outcomes that are reported when sessions close. -/
def reported (effects : List Effect) : List String :=
  effects.filterMap fun
    | .log r =>
      if r.message = "connection closed" then (r.fields.find? (·.key = "outcome")).map (·.value)
      else none
    | _ => none

/-- What a session has reported of its end in a stage. -/
def Stage.farewell : Stage → List String
  | .ended (.finished outcome) => [outcome.name]
  | _ => []

/-- A session that takes a step has not said farewell yet, and it does so in the step that ends it
    with an outcome. -/
theorem reported_step (h : Transition ctx s signal s' effects) :
    s.stage.farewell = [] ∧ reported effects = s'.stage.farewell := by
  cases h with
  | abandonCall hst =>
    obtain hst | ⟨outcome, hst⟩ := hst <;> simp [Stage.farewell, reported, hst]
  | abandon ho hhandshake hshutdown =>
    cases hst : s.stage <;> simp_all [isOver, Stage.farewell, reported]
  | _ => simp_all [Stage.farewell, reported, note, wireNote, greeting]

/-- A session reports its outcome once when it ends by itself, and says nothing of it otherwise. -/
theorem reported_of_run (h : (start ctx id peer).run ctx signals = some (s, effects)) :
    reported effects = s.stage.farewell := by
  refine run_invariant (P := fun _ effects s => reported effects = s.stage.farewell) rfl ?_ h
  intro signals effects s signal s' more hs ht
  obtain ⟨hopen, hmore⟩ := reported_step ht
  have happend : reported (effects ++ more) = reported effects ++ reported more :=
    List.filterMap_append
  rw [happend, hs, hopen, hmore, List.nil_append]

end TlsEcho.Session
