/-! # A seeded stream of random 64-bit draws

The stream cipher ChaCha with twelve rounds, used as a generator.  A 64-bit seed is stretched to
a 256-bit key; the key and a block counter that starts at zero give blocks of sixteen words; two
successive words make a draw, the first one its low half.

* `Key.ofSeed` stretches the seed,
* `block` is the block function,
* `draw seed n` is the `n`-th draw of the stream, counted from zero. -/

namespace TlsEcho.Random.ChaCha

/-- A 256-bit key as eight words. -/
abbrev Key := Vector UInt32 8

/-- The cipher's state of sixteen words. -/
abbrev State := Vector UInt32 16

/-- Rotates a word to the left; the amount counts modulo 32. -/
def rotateLeft (x amount : UInt32) : UInt32 :=
  let k := amount % 32
  if k = 0 then x else (x <<< k) ||| (x >>> (32 - k))

/-! ## Seeds -/

/-- One step of the 64-bit congruential generator that stretches a seed. -/
def seedStep (s : UInt64) : UInt64 := s * 6364136223846793005 + 11634580027462260723

/-- The key word that a state of the seed generator gives: its top bits, mixed and rotated. -/
def seedWord (s : UInt64) : UInt32 :=
  let x := (((s >>> 18) ^^^ s) >>> 27).toUInt32
  let k := (s >>> 59).toUInt32
  rotateLeft x (32 - k)

/-- The state of the seed generator after `n` steps. -/
def seedState (seed : UInt64) : Nat → UInt64
  | 0 => seed
  | n + 1 => seedStep (seedState seed n)

/-- The key for a seed: eight successive words of the seed generator. -/
def Key.ofSeed (seed : UInt64) : Key :=
  Vector.ofFn fun i => seedWord (seedState seed (i.val + 1))

/-! ## Blocks -/

/-- Mixes four words of the state. -/
def quarterRound (s : State) (a b c d : Fin 16) : State :=
  let s := s.set a (s[a] + s[b])
  let s := s.set d (rotateLeft (s[d] ^^^ s[a]) 16)
  let s := s.set c (s[c] + s[d])
  let s := s.set b (rotateLeft (s[b] ^^^ s[c]) 12)
  let s := s.set a (s[a] + s[b])
  let s := s.set d (rotateLeft (s[d] ^^^ s[a]) 8)
  let s := s.set c (s[c] + s[d])
  s.set b (rotateLeft (s[b] ^^^ s[c]) 7)

/-- Two rounds: the four columns, then the four diagonals. -/
def doubleRound (s : State) : State :=
  let s := quarterRound s 0 4 8 12
  let s := quarterRound s 1 5 9 13
  let s := quarterRound s 2 6 10 14
  let s := quarterRound s 3 7 11 15
  let s := quarterRound s 0 5 10 15
  let s := quarterRound s 1 6 11 12
  let s := quarterRound s 2 7 8 13
  quarterRound s 3 4 9 14

/-- The state that block `counter` starts from: four constants, the key, the counter and a zero
    nonce. -/
def initial (key : Key) (counter : UInt64) : State :=
  #v[0x61707865, 0x3320646e, 0x79622d32, 0x6b206574,
     key[0], key[1], key[2], key[3], key[4], key[5], key[6], key[7],
     counter.toUInt32, (counter >>> 32).toUInt32, 0, 0]

/-- Block `counter` of the stream: twelve rounds, then the sum with the start. -/
def block (key : Key) (counter : UInt64) : State :=
  let start := initial key counter
  let mixed := (doubleRound <| doubleRound <| doubleRound <|
    doubleRound <| doubleRound <| doubleRound start)
  Vector.zipWith (· + ·) mixed start

/-- The `n`-th draw for a seed: eight draws come from one block. -/
def draw (seed : UInt64) (n : Nat) : UInt64 :=
  let words := block (Key.ofSeed seed) (UInt64.ofNat (n / 8))
  let low : Fin 16 := ⟨2 * (n % 8), by omega⟩
  let high : Fin 16 := ⟨2 * (n % 8) + 1, by omega⟩
  words[low].toUInt64 ||| (words[high].toUInt64 <<< 32)

end TlsEcho.Random.ChaCha
