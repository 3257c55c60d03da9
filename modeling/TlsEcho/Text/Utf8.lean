import TlsEcho.Bytes

/-! # Reading UTF-8

`Utf8.split` takes one character, or one ill-formed part, off the front of a byte string.  An
ill-formed part is as long as it can be while it still is the beginning of some character's
bytes, and at least one byte long.

* `decode?` reads a whole byte string and refuses ill-formed ones,
* `decodeLossy` puts the replacement character in the place of each ill-formed part. -/

namespace TlsEcho.Text.Utf8

/-- The character that stands for an ill-formed part. -/
def replacement : Char := '\uFFFD'

/-- Whether a byte continues a character. -/
def isContinuation (b : UInt8) : Bool := 0x80 ≤ b && b ≤ 0xBF

/-- What may follow the first byte of a character of more than one byte. -/
structure Lead where
  /-- How many bytes follow the first one. -/
  following : Nat
  /-- The least and the greatest second byte. -/
  low : UInt8
  high : UInt8
  /-- The part of the character's code that the first byte holds. -/
  bits : Nat

/-- The bytes that may follow `b`, if `b` begins a character of more than one byte.  The second
    byte is bounded so that there are neither overlong forms nor surrogates nor codes beyond the
    last character. -/
def lead? (b : UInt8) : Option Lead :=
  if 0xC2 ≤ b && b ≤ 0xDF then some ⟨1, 0x80, 0xBF, b.toNat - 0xC0⟩
  else if b = 0xE0 then some ⟨2, 0xA0, 0xBF, 0⟩
  else if b = 0xED then some ⟨2, 0x80, 0x9F, 0xD⟩
  else if 0xE1 ≤ b && b ≤ 0xEF then some ⟨2, 0x80, 0xBF, b.toNat - 0xE0⟩
  else if b = 0xF0 then some ⟨3, 0x90, 0xBF, 0⟩
  else if 0xF1 ≤ b && b ≤ 0xF3 then some ⟨3, 0x80, 0xBF, b.toNat - 0xF0⟩
  else if b = 0xF4 then some ⟨3, 0x80, 0x8F, 4⟩
  else none

/-- Takes up to `n` more continuation bytes of a character whose code so far is `code`.  There is
    no character when they run out. -/
def continuations : (n : Nat) → (code : Nat) → Bytes → Option Char × Bytes
  | 0, code, rest => (some (Char.ofNat code), rest)
  | n + 1, code, b :: rest =>
    if isContinuation b then continuations n (code * 64 + (b.toNat - 0x80)) rest
    else (none, b :: rest)
  | _ + 1, _, [] => (none, [])

/-- Takes the character or the ill-formed part that begins with `b` off the front. -/
def split (b : UInt8) (rest : Bytes) : Option Char × Bytes :=
  if b < 0x80 then (some (Char.ofNat b.toNat), rest)
  else
    match lead? b, rest with
    | some l, c :: rest' =>
      if l.low ≤ c && c ≤ l.high then
        continuations (l.following - 1) (l.bits * 64 + (c.toNat - 0x80)) rest'
      else (none, rest)
    | _, _ => (none, rest)

/-- Continuation bytes are taken from the front. -/
theorem length_continuations_le (n code : Nat) (rest : Bytes) :
    (continuations n code rest).2.length ≤ rest.length := by
  induction n generalizing code rest with
  | zero => simp [continuations]
  | succ n ih =>
    match rest with
    | [] => simp [continuations]
    | b :: rest =>
      unfold continuations
      split
      · exact Nat.le_succ_of_le (ih _ _)
      · simp

/-- What is left after a part is no longer than what followed its first byte. -/
theorem length_split_le (b : UInt8) (rest : Bytes) : (split b rest).2.length ≤ rest.length := by
  unfold split
  split
  · simp
  · split
    · split
      · exact Nat.le_succ_of_le (length_continuations_le _ _ _)
      · simp
    · simp

/-- The parts of a byte string: its characters, and `none` for each ill-formed part. -/
def parts : Bytes → List (Option Char)
  | [] => []
  | b :: rest =>
    let front := split b rest
    front.1 :: parts front.2
termination_by bytes => bytes.length
decreasing_by
  have := length_split_le b rest
  simp only [List.length_cons]
  omega

/-- The characters of a well-formed byte string. -/
def decode? (b : Bytes) : Option (List Char) := (parts b).mapM id

/-- The characters of any byte string, each ill-formed part replaced. -/
def decodeLossy (b : Bytes) : List Char := (parts b).map fun c => c.getD replacement

end TlsEcho.Text.Utf8
