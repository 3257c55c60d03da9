import TlsEcho.Connection.Id
import TlsEcho.Log

/-! # The registry of open connections

The registry hands out connection ids that are unique among the connections open at the same
time.  Ids come from an endless stream of draws; a draw that is already taken is thrown away and
the next one is tried.  An id that is released may be handed out again.

* `candidate` takes the next draw and reserves nothing,
* `claim` makes a candidate active, or the first later draw that is free,
* `allocate` claims a fresh draw,
* `release` makes an active id free again and refuses any other id.

The number of collisions of one claim is counted in 32 bits.  A claim that would count beyond
that fails: it gives no id and leaves the active ids as they were. -/

namespace TlsEcho

/-- Why the registry refuses a request. -/
inductive RegistryError
  /-- The id is not active: it was released before or never handed out. -/
  | notActive (id : ConnectionId)
  deriving DecidableEq, Repr

/-- The text of a registry error. -/
def RegistryError.message : RegistryError → String
  | .notActive id => "connection id " ++ id.display ++ " is not active"

/-- The open connections' ids and the stream that new ids come from. -/
structure Registry where
  /-- The endless stream of draws. -/
  draws : Nat → ConnectionId
  /-- How many draws have been used up. -/
  drawn : Nat := 0
  /-- The ids in use, the newest first. -/
  active : List ConnectionId := []
  /-- No id is in use twice. -/
  nodup : active.Nodup := by simp

namespace Registry

/-- The most collisions that one claim can count. -/
def maxCollisions : Nat := 4294967295

/-- A registry without open connections. -/
def ofDraws (draws : Nat → ConnectionId) : Registry := { draws }

/-- Whether an id is in use. -/
def isActive (r : Registry) (id : ConnectionId) : Bool := decide (id ∈ r.active)

/-- How many ids are in use. -/
def size (r : Registry) : Nat := r.active.length

/-- Whether no id is in use. -/
def isEmpty (r : Registry) : Bool := r.active.isEmpty

/-- Takes the next draw without putting it in use. -/
def candidate (r : Registry) : ConnectionId × Registry :=
  (r.draws r.drawn, { r with drawn := r.drawn + 1 })

/-- The position of the first draw from `start` on that is not among `taken`, looking at no more
    than `fuel` draws. -/
def firstFree? (draws : Nat → ConnectionId) (taken : List ConnectionId) :
    (fuel : Nat) → (start : Nat) → Option Nat
  | 0, _ => none
  | fuel + 1, start =>
    if draws start ∈ taken then firstFree? draws taken fuel (start + 1) else some start

/-- The position found is that of a draw that is free. -/
theorem not_mem_of_firstFree? {draws : Nat → ConnectionId} {taken : List ConnectionId}
    {fuel start n : Nat} (h : firstFree? draws taken fuel start = some n) :
    draws n ∉ taken := by
  induction fuel generalizing start with
  | zero => exact nomatch h
  | succ fuel ih =>
    unfold firstFree? at h
    split at h
    · exact ih h
    · rename_i free
      obtain rfl := Option.some.inj h
      exact free

/-- Puts `candidate` in use, or the first later draw that is free.  There is no id when the
    collisions cannot be counted any more. -/
def claim (r : Registry) (candidate : ConnectionId) : Option ConnectionId × Registry :=
  if free : candidate ∉ r.active then
    (some candidate,
      { r with active := candidate :: r.active, nodup := List.nodup_cons.2 ⟨free, r.nodup⟩ })
  else
    match found : firstFree? r.draws r.active maxCollisions r.drawn with
    | some n =>
      (some (r.draws n),
        { r with
          drawn := n + 1
          active := r.draws n :: r.active
          nodup := List.nodup_cons.2 ⟨not_mem_of_firstFree? found, r.nodup⟩ })
    | none => (none, { r with drawn := r.drawn + maxCollisions })

/-- Claims a fresh draw. -/
def allocate (r : Registry) : Option ConnectionId × Registry :=
  let (first, r) := r.candidate
  r.claim first

/-- Makes an active id free again. -/
def release (r : Registry) (id : ConnectionId) : Except RegistryError Registry :=
  if id ∈ r.active then
    .ok { r with active := r.active.erase id, nodup := r.nodup.erase id }
  else
    .error (.notActive id)

/-! ## Log records -/

/-- The part of the server that the registry's records name. -/
def logTarget : String := "moat_registry::registry"

/-- What a claim reports, given the registry before and after it: the collisions, if there were
    any, and the new id.  Every collision uses up one draw. -/
def claimLog (before after : Registry) (id : ConnectionId) : List Log.Record :=
  let collisions := after.drawn - before.drawn
  let resampled : List Log.Record :=
    if collisions = 0 then []
    else [⟨.debug, logTarget, "connection id resampled",
      [⟨"id", id.display⟩, ⟨"collisions", toString collisions⟩]⟩]
  resampled ++ [⟨.trace, logTarget, "connection id allocated",
    [⟨"id", id.display⟩, ⟨"active", toString after.size⟩]⟩]

/-- What a successful release reports, given the registry after it. -/
def releaseLog (after : Registry) (id : ConnectionId) : List Log.Record :=
  [⟨.trace, logTarget, "connection id released",
    [⟨"id", id.display⟩, ⟨"active", toString after.size⟩]⟩]

end Registry

end TlsEcho
