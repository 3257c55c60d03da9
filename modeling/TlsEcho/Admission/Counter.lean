import TlsEcho.Log

/-! # The counter of live connections

A connection is live from the end of its handshake until it closes.  The counter holds how many
there are, and a version that moves with every change, so that a watcher can tell whether the
count has moved since it last looked, even if it moved back meanwhile. -/

namespace TlsEcho.Admission

/-- The number of live connections and the number of changes so far. -/
structure LiveCounter where
  count : Nat := 0
  version : Nat := 0
  deriving DecidableEq, Repr, Inhabited

namespace LiveCounter

/-- One more live connection. -/
def acquire (c : LiveCounter) : LiveCounter := ⟨c.count + 1, c.version + 1⟩

/-- One live connection less.  A counter at zero stays there, and the change is still noticed. -/
def release (c : LiveCounter) : LiveCounter := ⟨c.count - 1, c.version + 1⟩

/-- What is said of a connection that is given back although none is counted. -/
def underflowMessage : String := "live connection counter would go negative"

/-- What is reported when a connection is given back that was never counted. -/
def releaseLog (c : LiveCounter) : List Log.Record :=
  if c.count = 0 then [⟨.error, "moat_admission::counter", underflowMessage, []⟩] else []

end LiveCounter

/-- Someone who watches something that has versions, such as the counter: the version last marked
    as seen. -/
structure Watcher where
  seen : Nat
  deriving DecidableEq, Repr, Inhabited

namespace Watcher

/-- A new watcher; nothing is unseen yet. -/
def subscribe (c : LiveCounter) : Watcher := ⟨c.version⟩

/-- Whether the present version is not the one last marked as seen. -/
def hasMissed (w : Watcher) (version : Nat) : Bool := w.seen != version

/-- Whether the counter has changed since the watcher last marked it as seen. -/
def hasChanged (w : Watcher) (c : LiveCounter) : Bool := w.hasMissed c.version

/-- Marks the counter's present state as seen. -/
def markSeen (_ : Watcher) (c : LiveCounter) : Watcher := ⟨c.version⟩

end Watcher

end TlsEcho.Admission
