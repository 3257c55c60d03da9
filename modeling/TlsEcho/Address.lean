import TlsEcho.Text.Hex

/-! # Network addresses

An address names a machine and a port on it.  Machines have addresses of four bytes, written as
decimal numbers with points between them, or of eight groups of sixteen bits, written in
hexadecimal with colons between them.  The longest run of zero groups is written as two colons.

`Address.render` writes an address and `Address.ofText?` reads one, in this form or another. -/

namespace TlsEcho

/-- The address of a machine. -/
inductive IpAddress
  | v4 (a b c d : UInt8)
  | v6 (groups : Vector UInt16 8)
  deriving DecidableEq

/-- A port of a machine. -/
structure Address where
  ip : IpAddress
  port : UInt16
  /-- The interface for an address that is known on one link only. -/
  scope : UInt32 := 0
  deriving DecidableEq

/-! ## Writing -/

namespace IpAddress

/-- An address of four bytes in decimal. -/
def quad (a b c d : UInt8) : String :=
  ".".intercalate ([a, b, c, d].map fun x => toString x.toNat)

/-- Groups in hexadecimal. -/
def colons (groups : List UInt16) : String :=
  ":".intercalate (groups.map fun g => String.ofList (Nat.toDigits 16 g.toNat))

/-- The start and the length of the longest run of zeros, the first one of several.  `run` is the
    length of the run that ends before position `pos`. -/
def longestZeros (pos run : Nat) (best : Nat × Nat) : List UInt16 → Nat × Nat
  | [] => best
  | g :: rest =>
    if g = 0 then
      let run := run + 1
      longestZeros (pos + 1) run (if best.2 < run then (pos + 1 - run, run) else best) rest
    else longestZeros (pos + 1) 0 best rest

/-- The two bytes of a group. -/
def groupBytes (g : UInt16) : UInt8 × UInt8 := ((g >>> 8).toUInt8, g.toUInt8)

/-- The written form of a machine's address. -/
def render : IpAddress → String
  | v4 a b c d => quad a b c d
  | v6 groups =>
    match groups.toList with
    | [0, 0, 0, 0, 0, 0xFFFF, high, low] =>
      let (a, b) := groupBytes high
      let (c, d) := groupBytes low
      "::ffff:" ++ quad a b c d
    | gs =>
      let (start, length) := longestZeros 0 0 (0, 0) gs
      if 1 < length then colons (gs.take start) ++ "::" ++ colons (gs.drop (start + length))
      else colons gs

end IpAddress

/-- The written form of an address. -/
def Address.render (a : Address) : String :=
  let port := ":" ++ toString a.port.toNat
  match a.ip with
  | .v4 .. => a.ip.render ++ port
  | .v6 _ =>
    let scope := if a.scope = 0 then "" else "%" ++ toString a.scope.toNat
    "[" ++ a.ip.render ++ scope ++ "]" ++ port

/-! ## Reading -/

namespace IpAddress

/-- The value of a digit. -/
def digit? (base : Nat) (c : Char) : Option Nat :=
  (Text.Hex.digitValue? c).filter fun d => d < base

/-- Reads a number below a bound from the front of a text.  It has at most `most` digits. -/
def number? (base bound most : Nat) (cs : List Char) : Option (Nat × List Char) :=
  let isDigit (c : Char) : Bool := (digit? base c).isSome
  let ds := cs.takeWhile isDigit
  let n := ds.foldl (fun n c => n * base + (digit? base c).getD 0) 0
  if ds = [] ∨ most < ds.length ∨ bound ≤ n then none else some (n, cs.dropWhile isDigit)

/-- Reads a decimal byte, which has no superfluous zeros. -/
def byte? (cs : List Char) : Option (UInt8 × List Char) :=
  match cs with
  | '0' :: c :: _ => if (digit? 10 c).isSome then none else some (0, cs.drop 1)
  | _ => (number? 10 256 3 cs).map fun (n, rest) => (UInt8.ofNat n, rest)

/-- Takes a given character off the front of a text. -/
def skip? (c : Char) : List Char → Option (List Char)
  | d :: rest => if c = d then some rest else none
  | [] => none

/-- Reads an address of four bytes. -/
def quad? (cs : List Char) : Option ((UInt8 × UInt8 × UInt8 × UInt8) × List Char) := do
  let (a, cs) ← byte? cs
  let (b, cs) ← byte? (← skip? '.' cs)
  let (c, cs) ← byte? (← skip? '.' cs)
  let (d, cs) ← byte? (← skip? '.' cs)
  return ((a, b, c, d), cs)

/-- A group of two bytes. -/
def groupOf (high low : UInt8) : UInt16 := UInt16.ofNat (high.toNat * 256 + low.toNat)

/-- Reads at most `most` groups with colons between them.  Four bytes may stand for the last two
    groups; the answer says whether they do. -/
def groups : (most : Nat) → (first : Bool) → List Char → List UInt16 × Bool × List Char
  | 0, _, cs => ([], false, cs)
  | most + 1, first, cs =>
    match if first then some cs else skip? ':' cs with
    | none => ([], false, cs)
    | some rest =>
      match if most = 0 then none else quad? rest with
      | some ((a, b, c, d), rest) => ([groupOf a b, groupOf c d], true, rest)
      | none =>
        match number? 16 65536 4 rest with
        | none => ([], false, cs)
        | some (g, rest) =>
          let (gs, isQuad, rest) := groups most false rest
          (UInt16.ofNat g :: gs, isQuad, rest)

/-- An address of the given groups, if there are as many as it takes. -/
def ofGroups? (gs : List UInt16) : Option IpAddress :=
  if h : gs.toArray.size = 8 then some (.v6 ⟨gs.toArray, h⟩) else none

/-- Reads an address of eight groups. -/
def v6? (cs : List Char) : Option (IpAddress × List Char) := do
  let (front, isQuad, rest) := groups 8 true cs
  if front.length = 8 then return (← ofGroups? front, rest)
  if isQuad then none
  let rest ← skip? ':' (← skip? ':' rest)
  let (back, _, rest) := groups (7 - front.length) true rest
  let zeros := List.replicate (8 - front.length - back.length) (0 : UInt16)
  return (← ofGroups? (front ++ zeros ++ back), rest)

end IpAddress

/-- Reads the port after the colon at the end of an address. -/
def Address.port? (cs : List Char) : Option UInt16 := do
  let rest ← IpAddress.skip? ':' cs
  let (n, rest) ← IpAddress.number? 10 65536 rest.length rest
  if rest.isEmpty then return UInt16.ofNat n else none

/-- Reads an address. -/
def Address.ofText? (text : String) : Option Address :=
  match text.toList with
  | '[' :: cs => do
    let (ip, rest) ← IpAddress.v6? cs
    let (scope, rest) ← match rest with
      | '%' :: rest => IpAddress.number? 10 UInt32.size rest.length rest
      | rest => some (0, rest)
    return ⟨ip, ← port? (← IpAddress.skip? ']' rest), UInt32.ofNat scope⟩
  | cs => do
    let ((a, b, c, d), rest) ← IpAddress.quad? cs
    return { ip := .v4 a b c d, port := ← port? rest }

end TlsEcho
