import TlsEcho.Proofs.Config.Fields
import TlsEcho.Proofs.Server.Lifecycle

/-!
# Servers built by hand

A server that is built by a sequence of steps has in every field what the last step put there that
touched the field, or the default; three numbers are raised to the least that works
(`ConfigField.clamp`).  Admission and the pool of workers raise what they are given by themselves.
They are given a validated configuration, in which there is nothing left to raise, so that all three
agree whatever happens to the server later (`agrees_of_run`).
-/

namespace TlsEcho

/-- A value raised to the least one to work with: two workers, one connection and one that waits to
    be accepted.  Every other value works as it is. -/
def ConfigField.clamp : (f : ConfigField) → f.Value → f.Value
  | .workerThreads, (n : Nat) => (max n 2 : Nat)
  | .maxConnections, (n : Nat) => (max n 1 : Nat)
  | .backlog, (n : UInt32) => (max n 1 : UInt32)
  | _, v => v

namespace Config

/-! ## Validated configurations -/

/-- What is clamped is at least one. -/
private theorem one_le_max (n : UInt32) : 1 ≤ max n 1 := by
  show 1 ≤ if n ≤ 1 then 1 else n
  grind

/-- What is at least one stays as it is. -/
private theorem max_eq_self {n : UInt32} (h : 1 ≤ n) : max n 1 = n := by
  show (if n ≤ 1 then 1 else n) = n
  grind

/-- Validation clamps every field for itself. -/
theorem get_validated (c : Config) (f : ConfigField) : c.validated.get f = f.clamp (c.get f) := by
  cases f <;> rfl

/-- Validating twice is validating once. -/
theorem clamp_clamp (f : ConfigField) (v : f.Value) : f.clamp (f.clamp v) = f.clamp v := by
  cases f with
  | workerThreads => exact Nat.max_eq_left (Nat.le_max_right v 2)
  | maxConnections => exact Nat.max_eq_left (Nat.le_max_right v 1)
  | backlog => exact max_eq_self (one_le_max v)
  | _ => rfl

/-- Validating a configuration again changes nothing. -/
theorem validated_validated (c : Config) : c.validated.validated = c.validated := by
  apply get_injective
  funext f
  rw [get_validated, get_validated, clamp_clamp]

/-- Validating a configuration again finds nothing to report. -/
theorem validationLog_validated (c : Config) : c.validated.validationLog = [] := by
  have hworkers : ¬ c.validated.workerThreads < minWorkerThreads :=
    Nat.not_lt.2 (Nat.le_max_right ..)
  have hbacklog : c.validated.backlog ≠ 0 := by
    have hpos : 1 ≤ c.validated.backlog := one_le_max c.backlog
    grind
  have hconnections : c.validated.limits.maxConnections ≠ 0 :=
    Nat.pos_iff_ne_zero.1 (Nat.le_max_right c.maxConnections 1)
  simp [validationLog, Admission.Limits.validationLog, hworkers, hbacklog, hconnections]

end Config

namespace Server

variable {s s' : Server} {a : Action} {effects : List Effect} {host : Host}

/-! ## The pool of a server -/

/-- A pool that starts keeps the number of its workers. -/
private theorem workers_of_start {p p' : WorkerPool} {refusal : Option String}
    (h : p.start refusal = .ok p') : p'.workers = p.workers := by
  unfold WorkerPool.start at h
  split at h
  · obtain rfl := Except.ok.inj h
    rfl
  · cases refusal with
    | some reason => exact nomatch h
    | none =>
      obtain rfl := Except.ok.inj h
      rfl

/-- A start leaves the number of workers as it is, whether it succeeds or not. -/
theorem start_workers (s : Server) (host : Host) :
    (s.start host).2.1.pool.workers = s.pool.workers := by
  unfold start
  split
  · rfl
  · split
    · rfl
    · split
      · rfl
      · rename_i pool hpool
        have hworkers := workers_of_start hpool
        -- the listener is bound, or the pool is stopped again
        split <;> exact hworkers

/-- So does every action of the server. -/
theorem workers_act (hact : s.act a = some (s', effects)) : s'.pool.workers = s.pool.workers := by
  cases a with
  | event e => rw [(isRunning_step (step_transition hact)).2]
  | start host =>
    obtain rfl : (s.start host).2.1 = s' := (Prod.mk.inj (Option.some.inj hact)).1
    exact start_workers s host
  | shutdown context =>
    obtain ⟨-, rfl, -⟩ | ⟨r, hr, rfl, -⟩ := act_shutdown_eq_some hact
    · rfl
    · rw [stopped_pool hr]
      rfl

/-! ## Agreement -/

/-- Admission and the pool of workers work with the numbers of the configuration. -/
structure Agrees (s : Server) : Prop where
  ceiling : s.controller.limits.maxConnections = s.config.maxConnections
  cooldown : s.controller.limits.cooldown = s.config.cooldown
  workers : s.pool.workers = s.config.workerThreads

/-- The parts of a server agree with its configuration after every run. -/
theorem agrees_of_run {config : Config} {draws : Nat → ConnectionId} {security : Security}
    {actions : List Action}
    (h : (ofConfig config draws security).run actions = some (s, effects)) : Agrees s := by
  obtain ⟨hconfig, hlimits⟩ := limits_of_run h
  have hworkers : s.pool.workers = (ofConfig config draws security).pool.workers :=
    run_invariant (P := fun _ _ s => s.pool.workers = (ofConfig config draws security).pool.workers)
      rfl (fun _ _ _ _ _ _ hs hact => (workers_act hact).trans hs) h
  -- two workers at least are more than the one that the pool asks for
  have hpool : (ofConfig config draws security).pool.workers = config.validated.workerThreads :=
    Nat.max_eq_left (Nat.le_trans (by decide) (Nat.le_max_right config.workerThreads 2))
  exact ⟨by rw [hlimits]; rfl, by rw [hlimits]; rfl, by rw [hworkers, hpool, hconfig]⟩

/-- What holds of a server that some steps have built on a machine with so many processors. -/
structure Built (processors : Nat) (calls : List BuilderCall) (server : Server) : Prop where
  /-- A field has the argument of its last setting, if no whole configuration came later. -/
  set : ∀ before s after, calls = before ++ .set s :: after →
    (∀ call ∈ after, ¬ call.Touches s.field) → server.config.get s.field = s.field.clamp s.value
  /-- It has what the last whole configuration had there, if it was not set later. -/
  config : ∀ before whole after f, calls = before ++ .config whole :: after →
    (∀ call ∈ after, ¬ call.Touches f) → server.config.get f = f.clamp (whole.get f)
  default : ∀ f, (∀ call ∈ calls, ¬ call.Touches f) →
    server.config.get f = f.clamp ((Config.default processors).get f)
  commute : ∀ before s t after, calls = before ++ .set s :: .set t :: after → s.field ≠ t.field →
    server.config =
      ((Config.default processors).build (before ++ .set t :: .set s :: after)).validated
  again : server.config.validated = server.config ∧ server.config.validationLog = []
  agrees : ∀ actions s history, server.run actions = some (s, history) →
    s.config = server.config ∧ Agrees s

/-- Whatever the steps are: each field of the server has what was put there last, only what is too
    small to work with is raised, and admission and the pool are given the same numbers. -/
theorem built_of_calls (processors : Nat) (calls : List BuilderCall) (draws : Nat → ConnectionId)
    (security : Security) :
    Built processors calls
      (ofConfig ((Config.default processors).build calls) draws security) := by
  have hget : ∀ f,
      (ofConfig ((Config.default processors).build calls) draws security).config.get f =
        f.clamp (((Config.default processors).build calls).get f) :=
    Config.get_validated _
  constructor
  case set =>
    rintro before s after rfl hlater
    rw [hget, Config.get_build_of_last _ before _ hlater]
    exact congrArg s.field.clamp (Config.get_set_self _ s)
  case config =>
    rintro before whole after f rfl hlater
    rw [hget, Config.get_build_of_last _ before _ hlater]
    rfl
  case default =>
    intro f hnone
    rw [hget, Config.get_build_of_untouched hnone]
  case commute =>
    rintro before s t after rfl hne
    have hswap : ∀ c : Config, c.build (.set s :: .set t :: after) =
        c.build (.set t :: .set s :: after) := fun c =>
      congrArg (fun c : Config => c.build after) (Config.set_comm hne)
    show Config.validated _ = _
    rw [Config.build_append, Config.build_append, hswap]
  case again => exact ⟨Config.validated_validated _, Config.validationLog_validated _⟩
  case agrees => exact fun actions s history h => ⟨(limits_of_run h).1, agrees_of_run h⟩

/-- A whole configuration undoes what was set before it. -/
example (draws : Nat → ConnectionId) :
    let calls := [.set (.port 80), .config (Config.default 4), .set (.maxConnections 0)]
    let config := (ofConfig ((Config.default 8).build calls) draws).config
    config.port = 8443 ∧ config.workerThreads = 4 ∧ config.maxConnections = 1 :=
  ⟨rfl, rfl, rfl⟩

end Server

end TlsEcho
