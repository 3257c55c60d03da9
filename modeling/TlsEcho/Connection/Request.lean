import TlsEcho.Connection.Registry

/-! # Requests to the registry

The registry is shared by everything that opens or closes a connection, and each call on it is
one indivisible step.  A `Request` is such a call, `Registry.serve` answers it, and
`Registry.serveAll` answers a whole sequence, whoever the callers were. -/

namespace TlsEcho.Registry

/-- A call on the registry. -/
inductive Request
  | allocate
  | candidate
  | claim (candidate : ConnectionId)
  | release (id : ConnectionId)
  deriving DecidableEq, Repr

/-- The answer to a call. -/
inductive Reply
  /-- The id is now in use. -/
  | granted (id : ConnectionId)
  /-- The id was drawn and is not reserved. -/
  | drawn (id : ConnectionId)
  | released
  | refused (e : RegistryError)
  /-- The claim met more collisions than it can count. -/
  | uncounted
  deriving DecidableEq, Repr

/-- What a claim of `candidate` answers, with the log records that it leaves. -/
def serveClaim (r : Registry) (candidate : ConnectionId) : Reply × Registry × List Log.Record :=
  match r.claim candidate with
  | (some id, after) => (.granted id, after, claimLog r after id)
  | (none, after) => (.uncounted, after, [])

/-- Answers a call and says what was logged meanwhile. -/
def serve (r : Registry) : Request → Reply × Registry × List Log.Record
  | .allocate => let (first, r) := r.candidate; serveClaim r first
  | .candidate => let (id, r) := r.candidate; (.drawn id, r, [])
  | .claim c => serveClaim r c
  | .release id =>
    match r.release id with
    | .ok after => (.released, after, releaseLog after id)
    | .error e => (.refused e, r, [])

/-- Answers a sequence of calls, one after the other. -/
def serveAll (r : Registry) : List Request → List Reply × Registry
  | [] => ([], r)
  | q :: qs =>
    let (reply, r, _) := r.serve q
    let (replies, r) := r.serveAll qs
    (reply :: replies, r)

end TlsEcho.Registry
