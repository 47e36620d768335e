import MooseHerd.Random.Words
import MooseHerd.Random.Ziggurat

/-! Normally distributed numbers from random words, by the ziggurat method: a layer and an abscissa
are drawn together, and in the rare case that the point may lie outside of the density one more
draw decides whether to start over. -/

namespace MooseHerd.Random

variable {ρ : Type} [WordSource ρ]

/-- How often a rejected draw is started over before a number is given all the same. A round is
rejected with probability below one in fifty, so no word source of this library comes near. -/
def rejectionBudget : Nat := 100000

/-- A number in `[0, 1)` with 53 random bits. -/
def unit (s : ρ) : Float × ρ :=
  let (w, s) := next64 s
  ((w >>> 11).toFloat * Float.ofBits 0x3ca0000000000000, s)

/-- A number strictly between 0 and 1 with 52 random bits. -/
def openUnit (s : ρ) : Float × ρ :=
  let (w, s) := next64 s
  (Float.ofBits ((w >>> 12) ||| 0x3ff0000000000000) - Float.ofBits 0x3fefffffffffffff, s)

/-- A number in `[-1, 1)` from the 52 high bits of a word. -/
def signedUnit (w : UInt64) : Float :=
  Float.ofBits ((w >>> 12) ||| 0x4000000000000000) - 3.0

/-- The distance of a point of the tail from its start, by exponential rejection. -/
def tailDistance : Nat → ρ → Float × ρ
  | 0, s => (0, s)
  | budget + 1, s =>
    let (a, s) := openUnit s
    let (b, s) := openUnit s
    let x := a.log / Ziggurat.tailStart
    let y := b.log
    if -2.0 * y < x * x then tailDistance budget s else (x, s)

/-- A standard normal number within a number of rounds. -/
def standardNormalWithin : Nat → ρ → Float × ρ
  | 0, s => (0, s)
  | budget + 1, s =>
    let (w, s) := next64 s
    let layer := (w &&& 0xff).toNat
    let u := signedUnit w
    let x := u * Ziggurat.edge layer
    if x.abs < Ziggurat.edge (layer + 1) then (x, s)
    else if layer = 0 then
      let (d, s) := tailDistance rejectionBudget s
      (if u < 0 then d - Ziggurat.tailStart else Ziggurat.tailStart - d, s)
    else
      let (r, s) := unit s
      let top := Ziggurat.height (layer + 1)
      let bottom := Ziggurat.height layer
      if top + (bottom - top) * r < (-x * x / 2.0).exp then (x, s)
      else standardNormalWithin budget s

/-- A standard normal number. -/
def standardNormal (s : ρ) : Float × ρ := standardNormalWithin rejectionBudget s

structure Gaussian where
  mean : Float
  deviation : Float

def Gaussian.sample (g : Gaussian) (s : ρ) : Float × ρ :=
  let (z, s) := standardNormal s
  (g.mean + g.deviation * z, s)

end MooseHerd.Random
