import TlsEcho.Log
import TlsEcho.Server.Error

/-! # The pool of workers

All connections are driven by one pool of worker threads.  The pool is started and stopped from
the thread that controls the server; stopping it drops the tasks that have not ended. -/

namespace TlsEcho

/-- Where a call is made. -/
inductive CallContext
  /-- On an ordinary thread. -/
  | plain
  /-- Inside a task of some pool, which must not wait for another. -/
  | task
  deriving DecidableEq, Repr

/-- A task for the pool. -/
inductive PoolTask (α : Type)
  | returns (a : α)
  | fails
  /-- Never ends, and holds what was given to it until it is dropped. -/
  | waits
  deriving DecidableEq, Repr

/-- What has become of a task. -/
inductive TaskResult (α : Type)
  | value (a : α)
  | failed
  | unfinished
  deriving DecidableEq, Repr

/-- A pool of workers. -/
structure WorkerPool where
  workers : Nat
  isRunning : Bool := false
  /-- How many tasks have not ended. -/
  unfinished : Nat := 0
  deriving DecidableEq, Repr

namespace WorkerPool

/-- A stopped pool of so many workers, but at least one. -/
def ofWorkers (n : Nat) : WorkerPool := { workers := max n 1 }

/-- Starts the workers unless they run already.  The system may refuse, for a reason. -/
def start (p : WorkerPool) (refusal : Option String := none) : Except ServerError WorkerPool :=
  if p.isRunning then .ok p
  else
    match refusal with
    | some reason => .error (.workers reason)
    | none => .ok { p with isRunning := true }

/-- Stops the workers. -/
def stop (p : WorkerPool) : WorkerPool := { p with isRunning := false, unfinished := 0 }

/-- Makes sure that the workers run. -/
def require (p : WorkerPool) : Except ServerError Unit :=
  if p.isRunning then .ok () else .error .notRunning

/-- Gives a task to the workers and waits for its end, if it has one. -/
def run {α : Type} (p : WorkerPool) (task : PoolTask α) :
    Except ServerError (TaskResult α × WorkerPool) :=
  p.require.map fun () =>
    match task with
    | .returns a => (.value a, p)
    | .fails => (.failed, p)
    | .waits => (.unfinished, { p with unfinished := p.unfinished + 1 })

/-- Waits for a value on the calling thread.  A task must not do that. -/
def waitFor {α : Type} (p : WorkerPool) (context : CallContext) (a : α) :
    Except ServerError (TaskResult α) :=
  p.require.map fun () =>
    match context with
    | .plain => .value a
    | .task => .failed

/-- What the names of all workers start with. -/
def nameStart : String := "moat-worker"

/-- The names of the workers. -/
def workerNames (p : WorkerPool) : List String :=
  (List.range p.workers).map fun n => nameStart ++ "-" ++ toString n

/-! ## Log records -/

/-- The part of the server that the pool's records name. -/
def logTarget : String := "moat::pool"

/-- What starting the workers reports. -/
def startLog (p : WorkerPool) : List Log.Record :=
  if p.isRunning then []
  else [⟨.info, logTarget, "reactor pool started", [⟨"workers", toString p.workers⟩]⟩]

/-- What stopping the workers reports.  Inside a task it does not wait for them. -/
def stopLog (p : WorkerPool) (context : CallContext) : List Log.Record :=
  if p.isRunning then
    (match context with
      | .plain => []
      | .task =>
        [⟨.warn, logTarget, "reactor pool stopped from async context, not joining workers", []⟩])
      ++ [⟨.info, logTarget, "reactor pool stopped", []⟩]
  else []

end WorkerPool

end TlsEcho
