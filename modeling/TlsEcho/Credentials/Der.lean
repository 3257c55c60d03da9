import TlsEcho.Bytes

/-! # DER

A value is written as a tag, a length and its content.  Lengths and numbers have no superfluous
bytes. -/

namespace TlsEcho.Der

/-! ## Tags -/

/-- The tag of a sequence. -/
def sequenceTag : UInt8 := 0x30

/-- The tag of a truth value. -/
def booleanTag : UInt8 := 0x01

/-- The tag of an integer. -/
def integerTag : UInt8 := 0x02

/-- The tag of a string of bits. -/
def bitsTag : UInt8 := 0x03

/-- The tag of a string of bytes. -/
def bytesTag : UInt8 := 0x04

/-- The tag of an object identifier. -/
def identifierTag : UInt8 := 0x06

/-- The tag of a field with a number. -/
def fieldTag (n : Nat) : UInt8 := UInt8.ofNat (0xA0 + n)

/-- The tag of a field with a number that takes the place of the field's own tag. -/
def implicitTag (n : Nat) : UInt8 := UInt8.ofNat (0x80 + n)

/-! ## Reading -/

/-- The natural number of bytes, most significant first. -/
def natOfBytes (b : Bytes) : Nat := b.foldl (fun n x => n * 256 + x.toNat) 0

/-- Reads a length. -/
def length? : Bytes → Option (Nat × Bytes)
  | 0x81 :: n :: rest => if 0x80 ≤ n then some (n.toNat, rest) else none
  | 0x82 :: a :: b :: rest =>
    let n := natOfBytes [a, b]
    if 0x100 ≤ n then some (n, rest) else none
  | n :: rest => if n < 0x80 then some (n.toNat, rest) else none
  | [] => none

/-- Reads a value: its tag, its content, and what follows it. -/
def value? : Bytes → Option (UInt8 × Bytes × Bytes)
  | [] => none
  | tag :: rest =>
    if tag &&& 0x1F = 0x1F then none
    else
      (length? rest).bind fun (n, rest) =>
        if n ≤ rest.length then some (tag, rest.take n, rest.drop n) else none

/-- Reads the content of a value with a given tag. -/
def content? (tag : UInt8) (b : Bytes) : Option (Bytes × Bytes) :=
  (value? b).bind fun (t, content, rest) => if t = tag then some (content, rest) else none

/-- Reads the content of a value with a given tag that nothing follows. -/
def only? (tag : UInt8) (b : Bytes) : Option Bytes :=
  (content? tag b).bind fun (content, rest) => if rest = [] then some content else none

/-- Reads the content of a value with a given tag, if that is what comes next. -/
def optional? (tag : UInt8) (b : Bytes) : Option (Option Bytes × Bytes) :=
  if b.head? = some tag then (content? tag b).map fun (content, rest) => (some content, rest)
  else some (none, b)

/-- Reads a natural number. -/
def natural? (b : Bytes) : Option (Nat × Bytes) :=
  (content? integerTag b).bind fun (content, rest) =>
    match content with
    | [] => none
    | [x] => if x < 0x80 then some (x.toNat, rest) else none
    | x :: y :: _ =>
      if 0x80 ≤ x ∨ (x = 0 ∧ y < 0x80) then none else some (natOfBytes content, rest)

/-- Reads a string of whole bytes that is given as one of bits, under a given tag. -/
def taggedBits? (tag : UInt8) (b : Bytes) : Option (Bytes × Bytes) :=
  (content? tag b).bind fun (content, rest) =>
    match content with
    | 0 :: bits => some (bits, rest)
    | _ => none

/-- Reads a string of whole bytes that is given as one of bits. -/
def wholeBits? (b : Bytes) : Option (Bytes × Bytes) := taggedBits? bitsTag b

/-! ## Writing -/

/-- The bytes of a natural number without leading zeros; none for zero. -/
def minimalBytes (n : Nat) : Bytes :=
  if n = 0 then [] else minimalBytes (n / 256) ++ [UInt8.ofNat (n % 256)]
termination_by n
decreasing_by omega

/-- A length. -/
def lengthBytes (n : Nat) : Bytes :=
  if n < 0x80 then [UInt8.ofNat n]
  else
    let b := minimalBytes n
    UInt8.ofNat (0x80 + b.length) :: b

/-- A value. -/
def encode (tag : UInt8) (content : Bytes) : Bytes :=
  tag :: (lengthBytes content.length ++ content)

/-- A natural number as a value. -/
def encodeNatural (n : Nat) : Bytes :=
  encode integerTag (match minimalBytes n with
    | [] => [0]
    | x :: rest => if 0x80 ≤ x then 0 :: x :: rest else x :: rest)

end TlsEcho.Der
