import MooseHerd.Random.Words

/-! Uniform choices from random words. A choice below a bound takes a word of 32 bits or two, and a
coin takes one of 64 bits. -/

namespace MooseHerd.Random

variable {ρ : Type} [WordSource ρ]

def wordCount : Nat := UInt32.size

/-- A number below `n`: the high half of a random word times `n`. When the low half is so large
that more random bits could carry into the high half, one more word is drawn to decide it. -/
def below (n : Nat) (s : ρ) : Nat × ρ :=
  let (w, s) := next32 s
  let product := w.toNat * n
  let high := product / wordCount
  let low := product % wordCount
  if wordCount - n < low then
    let (v, s) := next32 s
    (high + (low + v.toNat * n / wordCount) / wordCount, s)
  else (high, s)

/-- An element of a list, drawn uniformly; the empty list draws nothing. -/
def choose? {α : Type} (items : Array α) (s : ρ) : Option α × ρ :=
  if items.isEmpty then (none, s)
  else
    let (i, s) := below items.size s
    (items[i]?, s)

/-- A fair coin: whether a word of 64 bits is in the lower half. -/
def coin (s : ρ) : Bool × ρ :=
  let (w, s) := next64 s
  (decide (w < 0x8000000000000000), s)

end MooseHerd.Random
