import MooseHerd.Decimal.Layout
import MooseHerd.Error
import MooseHerd.Random.Choice
import MooseHerd.Random.Normal

/-! The bodily traits of a moose and their random choice. -/

namespace MooseHerd

open MooseHerd.Random

/-- A normal distribution has a finite mean and a finite positive deviation. -/
def Random.Gaussian.isValid (g : Gaussian) : Bool :=
  g.mean.isFinite && g.deviation.isFinite && decide (0.0 < g.deviation)

def Random.Gaussian.check (g : Gaussian) : Except Error Unit :=
  if g.isValid then .ok ()
  else .error (.distribution ("N(" ++ Decimal.textLayout.text g.mean ++ ", " ++
    Decimal.textLayout.text g.deviation ++ ") 无效: 均值须有限且标准差须为正数"))

/-- Height in metres, weight in kilograms, and whether there are antlers. -/
structure Traits where
  height : Float
  weight : Float
  antlers : Bool
  deriving Repr, BEq, Inhabited

namespace Traits

def heights : Gaussian := ⟨1.7, 0.1⟩

def antleredWeights : Gaussian := ⟨540.0, 53.0⟩

def antlerlessWeights : Gaussian := ⟨345.0, 48.0⟩

def weights (antlers : Bool) : Gaussian := if antlers then antleredWeights else antlerlessWeights

def check : Except Error Unit := do
  heights.check
  antleredWeights.check
  antlerlessWeights.check

/-- Random traits: first the antlers, by a fair coin, then the height and the weight. -/
def sample {ρ : Type} [WordSource ρ] (words : ρ) : Traits × ρ :=
  let (antlers, words) := coin words
  let (height, words) := heights.sample words
  let (weight, words) := (weights antlers).sample words
  ({ height, weight, antlers }, words)

def samples {ρ : Type} [WordSource ρ] : Nat → ρ → List Traits × ρ
  | 0, words => ([], words)
  | count + 1, words =>
    let (traits, words) := sample words
    let (rest, words) := samples count words
    (traits :: rest, words)

end Traits

end MooseHerd
