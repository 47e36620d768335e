import MooseHerd.Names.FirstNames
import MooseHerd.Random.Choice

/-! Where candidate names come from. A source may take random words, and it may change with every
name that it gives. -/

namespace MooseHerd.Names

open MooseHerd.Random

/-- A source of names that takes its random words from `ρ`. -/
class NameSource (ν ρ : Type) where
  draw : ν → ρ → String × ν × ρ

/-- A pool from which names are drawn with replacement, all equally likely. The empty pool gives
empty names and takes no random word. -/
structure NamePool where
  names : Array String

instance {ρ : Type} [WordSource ρ] : NameSource NamePool ρ where
  draw pool words :=
    let (name, words) := choose? pool.names words
    (name.getD "", pool, words)

def NamePool.english : NamePool := ⟨firstNames⟩

/-- Names given one after the other, without random words; empty names follow the last one. -/
structure NameScript where
  names : List String

instance {ρ : Type} : NameSource NameScript ρ where
  draw script words := (script.names.headD "", ⟨script.names.tail⟩, words)

end MooseHerd.Names
