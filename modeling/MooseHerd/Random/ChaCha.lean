import MooseHerd.Random.Words

/-! The ChaCha stream cipher with twelve rounds as a source of random words: the keystream of a
256-bit key under nonce zero, read as 32-bit words. -/

namespace MooseHerd.Random

namespace ChaCha

def rotl (x : UInt32) (n : UInt32) : UInt32 := (x <<< n) ||| (x >>> (32 - n))

/-- Sixteen words: four constants, eight key words, the block counter and the nonce. -/
abbrev Block := Vector UInt32 16

def quarterRound (a b c d : Fin 16) (v : Block) : Block :=
  let v := v.set a (v[a] + v[b])
  let v := v.set d (rotl (v[d] ^^^ v[a]) 16)
  let v := v.set c (v[c] + v[d])
  let v := v.set b (rotl (v[b] ^^^ v[c]) 12)
  let v := v.set a (v[a] + v[b])
  let v := v.set d (rotl (v[d] ^^^ v[a]) 8)
  let v := v.set c (v[c] + v[d])
  v.set b (rotl (v[b] ^^^ v[c]) 7)

/-- A round on the columns and a round on the diagonals. -/
def doubleRound (v : Block) : Block :=
  let v := quarterRound 0 4 8 12 v
  let v := quarterRound 1 5 9 13 v
  let v := quarterRound 2 6 10 14 v
  let v := quarterRound 3 7 11 15 v
  let v := quarterRound 0 5 10 15 v
  let v := quarterRound 1 6 11 12 v
  let v := quarterRound 2 7 8 13 v
  quarterRound 3 4 9 14 v

def initial (key : Vector UInt32 8) (counter : UInt64) : Block :=
  #v[0x61707865, 0x3320646e, 0x79622d32, 0x6b206574,
    key[0], key[1], key[2], key[3], key[4], key[5], key[6], key[7],
    counter.toUInt32, (counter >>> 32).toUInt32, 0, 0]

/-- The keystream block of a counter: six double rounds, then the initial block added. -/
def block (key : Vector UInt32 8) (counter : UInt64) : Block :=
  let start := initial key counter
  let mixed := doubleRound (doubleRound (doubleRound (doubleRound (doubleRound
    (doubleRound start)))))
  Vector.zipWith (· + ·) mixed start

end ChaCha

/-- The keystream of a key: the words of the current block not yet taken, and the counter of the
block after it. -/
structure ChaChaStream where
  key : Vector UInt32 8
  counter : UInt64 := 0
  pending : List UInt32 := []

namespace ChaChaStream

def next32 (s : ChaChaStream) : UInt32 × ChaChaStream :=
  match s.pending with
  | w :: rest => (w, { s with pending := rest })
  | [] =>
    let words := (ChaCha.block s.key s.counter).toList
    (words.headD 0, { s with counter := s.counter + 1, pending := words.tail })

/-- A word of 64 bits is made of two words, the first the low half. -/
def next64 (s : ChaChaStream) : UInt64 × ChaChaStream :=
  let (low, s) := s.next32
  let (high, s) := s.next32
  (low.toUInt64 ||| (high.toUInt64 <<< 32), s)

instance : WordSource ChaChaStream := ⟨next32, next64⟩

/-- One step of the linear congruence that spreads a seed over a key. -/
def seedStep (s : UInt64) : UInt64 := s * 6364136223846793005 + 11634580027462260723

/-- The key word of a spread state: its high bits folded, then rotated by the topmost five. -/
def seedWord (s : UInt64) : UInt32 :=
  let x := (((s >>> 18) ^^^ s) >>> 27).toUInt32
  let r := (s >>> 59).toUInt32
  (x >>> r) ||| (x <<< ((32 - r) % 32))

/-- The stream whose key words come from successive spreadings of the seed. -/
def ofSeed (seed : UInt64) : ChaChaStream :=
  let states := Vector.ofFn fun i : Fin 8 => Nat.repeat seedStep (i.val + 1) seed
  { key := states.map seedWord }

end ChaChaStream

end MooseHerd.Random
