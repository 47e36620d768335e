/-! Sources of random words. A source is a state from which words of 32 or 64 bits are taken one
after the other; nothing else about it is known to the code that draws. -/

namespace MooseHerd.Random

/-- A state from which random words are taken. -/
class WordSource (ρ : Type) where
  next32 : ρ → UInt32 × ρ
  next64 : ρ → UInt64 × ρ

export WordSource (next32 next64)

/-- The SplitMix generator: a counter in steps of the golden ratio, mixed by two rounds. -/
structure SplitMix where
  state : UInt64

namespace SplitMix

def mix (z : UInt64) : UInt64 :=
  let z := (z ^^^ (z >>> 30)) * 0xbf58476d1ce4e5b9
  let z := (z ^^^ (z >>> 27)) * 0x94d049bb133111eb
  z ^^^ (z >>> 31)

def next (s : SplitMix) : UInt64 × SplitMix :=
  let state := s.state + 0x9e3779b97f4a7c15
  (mix state, ⟨state⟩)

end SplitMix

/-- Words given in advance. When they are used up the words of a SplitMix counter follow. -/
structure WordTape where
  words : List UInt64
  filler : SplitMix := ⟨0⟩

namespace WordTape

def next (t : WordTape) : UInt64 × WordTape :=
  match t.words with
  | w :: rest => (w, { t with words := rest })
  | [] => let (w, filler) := t.filler.next; (w, { t with filler })

/-- A word of 32 bits is the low half of the next word. -/
instance : WordSource WordTape where
  next32 t := let (w, t) := t.next; (w.toUInt32, t)
  next64 := next

end WordTape

end MooseHerd.Random
