/-! # Tasks on a clock

Tasks take turns.  Those that are ready stand in a queue and take their turns in its order; a task
that has to wait sets an alarm.  The clock moves only when no task is ready: then it goes to the
earliest alarm, and the tasks of all alarms of that time become ready, in the order in which the
alarms were set. -/

namespace TlsEcho.Session

/-- A time at which a task becomes ready. -/
structure Alarm (α : Type) where
  time : Nat
  /-- Tells which of two alarms was set first. -/
  ticket : Nat
  task : α
  deriving DecidableEq, Repr

/-- Whether an alarm goes off before another one. -/
def Alarm.isBefore (a b : Alarm α) : Bool :=
  a.time < b.time || (a.time == b.time && a.ticket < b.ticket)

/-- Adds an alarm to alarms in the order in which they go off. -/
def Alarm.insert (a : Alarm α) : List (Alarm α) → List (Alarm α)
  | [] => [a]
  | b :: rest => if a.isBefore b then a :: b :: rest else b :: a.insert rest

/-- The time, the tasks that are ready, and the alarms of those that wait. -/
structure Agenda (α : Type) where
  now : Nat := 0
  /-- The queue. -/
  ready : List α
  /-- In the order in which they go off. -/
  alarms : List (Alarm α) := []
  /-- The ticket of the next alarm. -/
  tickets : Nat := 0
  deriving DecidableEq, Repr

namespace Agenda

variable {α : Type} [DecidableEq α]

/-- Puts a task at the end of the queue, unless it is in the queue. -/
def wake (a : Agenda α) (task : α) : Agenda α :=
  if task ∈ a.ready then a else { a with ready := a.ready ++ [task] }

/-- Lets a task take the next turn, too. -/
def goOn (a : Agenda α) (task : α) : Agenda α := { a with ready := task :: a.ready }

/-- Sets an alarm under a ticket. -/
def setAlarm (a : Agenda α) (task : α) (time ticket : Nat) : Agenda α :=
  { a with alarms := Alarm.insert ⟨time, ticket, task⟩ a.alarms }

/-- Sets an alarm under a new ticket. -/
def waitUntil (a : Agenda α) (task : α) (time : Nat) : Agenda α :=
  { a.setAlarm task time a.tickets with tickets := a.tickets + 1 }

/-- Takes the alarms of a task back. -/
def cancel (a : Agenda α) (task : α) : Agenda α :=
  { a with alarms := a.alarms.filter (·.task ≠ task) }

/-- Moves the clock to the earliest alarm, if there is one. -/
def ring (a : Agenda α) : Agenda α :=
  match a.alarms with
  | [] => a
  | first :: _ =>
    let due := a.alarms.takeWhile (·.time ≤ first.time)
    let a := { a with
      now := max a.now first.time
      alarms := a.alarms.dropWhile (·.time ≤ first.time) }
    due.foldl (fun a alarm => a.wake alarm.task) a

/-- Takes the next task from the queue; there is none when no task is ready and none waits. -/
def next (a : Agenda α) : Option (α × Agenda α) :=
  let a := if a.ready = [] then a.ring else a
  match a.ready with
  | [] => none
  | task :: rest => some (task, { a with ready := rest })

end Agenda

end TlsEcho.Session
