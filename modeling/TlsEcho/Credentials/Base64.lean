import TlsEcho.Bytes

/-! # Base64

Every character stands for six bits, four characters for three bytes.  The characters that are
left at the end may be filled up to four with padding.  White space is skipped. -/

namespace TlsEcho.Base64

/-- What a byte means in base64 text. -/
inductive Symbol
  | bits (n : Nat)
  | padding
  | blank
  deriving DecidableEq, Repr

/-- Why a text is refused. -/
inductive Error
  | invalidCharacter (b : UInt8)
  /-- Something follows the padding. -/
  | prematurePadding
  /-- The characters that are left at the end are too few, or are not filled up to four. -/
  | invalidTrailingPadding
  deriving DecidableEq, Repr

/-- The text of an error. -/
def Error.message : Error → String
  | .invalidCharacter b => "InvalidCharacter(" ++ toString b.toNat ++ ")"
  | .prematurePadding => "PrematurePadding"
  | .invalidTrailingPadding => "InvalidTrailingPadding"

/-- What a byte means. -/
def symbol? (b : UInt8) : Option Symbol :=
  if 65 ≤ b ∧ b ≤ 90 then some (.bits (b.toNat - 65))
  else if 97 ≤ b ∧ b ≤ 122 then some (.bits (b.toNat - 97 + 26))
  else if 48 ≤ b ∧ b ≤ 57 then some (.bits (b.toNat - 48 + 52))
  else if b = 43 then some (.bits 62)
  else if b = 47 then some (.bits 63)
  else if b = 61 then some .padding
  else if b = 32 ∨ 9 ≤ b ∧ b ≤ 13 then some .blank
  else none

/-- The symbols that a text begins with, white space left out, and the first byte that means
    nothing, if there is one. -/
def scan : Bytes → List Symbol × Option UInt8
  | [] => ([], none)
  | b :: rest =>
    match symbol? b with
    | none => ([], some b)
    | some .blank => scan rest
    | some s =>
      let (symbols, stray) := scan rest
      (s :: symbols, stray)

/-- The last `count` bytes of a number. -/
def lastBytes : (count : Nat) → (n : Nat) → Bytes
  | 0, _ => []
  | count + 1, n => lastBytes count (n / 256) ++ [UInt8.ofNat (n % 256)]

/-- The bytes of a sequence of symbols. -/
def groups : List Symbol → Except Error Bytes
  | [] => .ok []
  | .bits a :: .bits b :: .bits c :: .bits d :: rest =>
    (groups rest).map (lastBytes 3 (((a * 64 + b) * 64 + c) * 64 + d) ++ ·)
  | [.bits a, .bits b, .bits c] | [.bits a, .bits b, .bits c, .padding] =>
    .ok (lastBytes 2 (((a * 64 + b) * 64 + c) / 4))
  | [.bits a, .bits b] | [.bits a, .bits b, .padding, .padding] =>
    .ok (lastBytes 1 ((a * 64 + b) / 16))
  | rest => .error (if 4 < rest.length then .prematurePadding else .invalidTrailingPadding)

/-- How many symbols are looked at together before the end of a text is in sight. -/
def blockSize : Nat := 8

/-- Whether a block with padding in it is complete and more follows. -/
def endsEarly (symbols : List Symbol) : Bool :=
  let first := symbols.idxOf .padding
  first < symbols.length && blockSize * (first / blockSize + 1) < symbols.length

/-- The bytes that a text stands for.  A byte that means nothing is reported unless padding has
    been met in a block before it. -/
def decode (text : Bytes) : Except Error Bytes :=
  let (symbols, stray) := scan text
  match stray with
  | none => groups symbols
  | some b => .error (if endsEarly symbols then .prematurePadding else .invalidCharacter b)

end TlsEcho.Base64
