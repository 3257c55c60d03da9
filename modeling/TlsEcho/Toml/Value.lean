import TlsEcho.Number.Binary64

/-! # TOML values

What a TOML document says, without the way in which it was written. -/

namespace TlsEcho.Toml

/-- A value of a TOML document. -/
inductive Value
  | string (text : String)
  | integer (n : Int)
  | float (x : Binary64)
  | boolean (b : Bool)
  /-- A date, a time or both, by its text. -/
  | datetime (text : String)
  | array (items : List Value)
  /-- An array whose items are tables with headers of their own. -/
  | tables (items : List Value)
  /-- The entries in the order in which the document gave them. -/
  | table (entries : List (String × Value))
  deriving Repr, Inhabited

/-- The entries of a table. -/
abbrev Entries := List (String × Value)

/-- The value of a key. -/
def Entries.get? (entries : Entries) (key : String) : Option Value :=
  (entries.find? fun e => e.1 == key).map Prod.snd

/-- Entries in the order of their keys. -/
def Entries.sorted (entries : Entries) : Entries :=
  entries.mergeSort fun a b => decide (a.1 ≤ b.1)

end TlsEcho.Toml
