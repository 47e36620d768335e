import MooseHerd.Manifest
import MooseHerd.Names.Search
import MooseHerd.Random.ChaCha

/-! Batches of moose with distinct names and random traits. -/

namespace MooseHerd

open MooseHerd.Random Names

/-- What the moose of a batch have in common, and how their names are searched for. -/
structure HerdPlan where
  letter : Char := 'M'
  /-- The greatest number of candidates that are drawn for the names of a batch. -/
  maxAttempts : Nat := 100000
  /-- Where the random words start, if that is fixed. -/
  seed : Option UInt64 := none
  apiVersion : String := "animals.com/v1"
  kind : String := "Moose"
  park : String := "glacier"
  deriving Repr, BEq, Inhabited

/-- The random words of a plan. Without a seed they are those that the surroundings provide. -/
def HerdPlan.words (plan : HerdPlan) (provided : ChaChaStream) : ChaChaStream :=
  match plan.seed with
  | some seed => .ofSeed seed
  | none => provided

/-- Names that were found with the traits chosen for them, in the same order. -/
structure Herd where
  names : NameList
  traits : List Traits
  deriving Repr, BEq, Inhabited

namespace Herd

def members (herd : Herd) : List (String × Traits) := herd.names.names.zip herd.traits

def manifests (plan : HerdPlan) (herd : Herd) : List Manifest :=
  herd.members.map fun (name, traits) =>
    .ofMoose plan.apiVersion plan.kind name plan.park traits

def memberEvent (name : String) (traits : Traits) : Log.Event where
  level := .debug
  target := "moose_generator::generators::moose_generator"
  message := "生成 Moose"
  fields := [("name", .shown name), ("height", .real traits.height),
    ("weight", .real traits.weight), ("antlers", .flag traits.antlers)]

def completionEvent (letter : Char) (count : Nat) : Log.Event where
  level := .info
  target := "moose_generator::generators::moose_generator"
  message := "Moose 批次生成完成"
  fields := [("count", .count count), ("letter", .shown letter.toString)]

/-- What is reported while the batch is made: the names, then moose by moose. -/
def events (plan : HerdPlan) (herd : Herd) : List Log.Event :=
  herd.names.event plan.letter ::
    (herd.members.map fun (name, traits) => memberEvent name traits) ++
    [completionEvent plan.letter herd.members.length]

/-- Makes a batch: first all names are searched for, then the traits are chosen, name by name. -/
def make {ν ρ : Type} [WordSource ρ] [NameSource ν ρ] (plan : HerdPlan) (count : Nat)
    (state : ν × ρ) : Except Error Herd × ν × ρ :=
  if count = 0 then (.error (.invalidArgument "count" "必须大于 0"), state)
  else match search drawFrom plan.letter plan.maxAttempts count state with
    | (.error e, state) => (.error e, state)
    | (.ok names, source, words) =>
      let (traits, words) := Traits.samples names.names.length words
      (.ok { names, traits }, source, words)

end Herd

end MooseHerd
