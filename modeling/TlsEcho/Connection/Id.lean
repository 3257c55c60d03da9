import TlsEcho.Text.Hex

/-! # Connection ids

A connection is known by a 64-bit number for as long as it is open.  Its displayed form is
`client-` and the number in exactly sixteen lower-case hexadecimal digits, so that displayed
forms sort as the numbers do. -/

namespace TlsEcho

/-- The identity of an open connection. -/
structure ConnectionId where
  val : UInt64
  deriving DecidableEq, Repr, Inhabited, Hashable

namespace ConnectionId

instance : Ord ConnectionId := ⟨fun a b => compare a.val b.val⟩

instance : LE ConnectionId := ⟨fun a b => a.val ≤ b.val⟩

instance (a b : ConnectionId) : Decidable (a ≤ b) := inferInstanceAs (Decidable (a.val ≤ b.val))

/-- What every displayed id starts with. -/
def displayStart : List Char := "client-".toList

/-- The displayed form as a list of characters. -/
def displayChars (id : ConnectionId) : List Char :=
  displayStart ++ Text.Hex.digits 16 id.val.toNat

/-- The displayed form. -/
def display (id : ConnectionId) : String := String.ofList id.displayChars

instance : ToString ConnectionId := ⟨display⟩

end ConnectionId

end TlsEcho
