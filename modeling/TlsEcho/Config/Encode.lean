import TlsEcho.Config.Decode

/-! # Choices written as values

The values that stand for an echo policy and for what is asked of clients' certificates.  Reading
them gives the choice back. -/

namespace TlsEcho

open Toml (Value)

/-- The value that stands for an echo policy. -/
def Echo.PolicyKind.toValue (k : Echo.PolicyKind) : Value := .string k.name

/-- The value that stands for what is asked of clients' certificates. -/
def PeerVerification.toValue : PeerVerification → Value
  | .none => .table [(Decode.modeKey, .string Decode.Mode.none.name)]
  | .required caFile =>
    .table [(Decode.modeKey, .string Decode.Mode.required.name), (Decode.caFileKey, .string caFile)]

end TlsEcho
