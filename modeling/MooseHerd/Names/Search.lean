import MooseHerd.Error
import MooseHerd.Log.Event
import MooseHerd.Names.Source
import MooseHerd.Text.Lowercase

/-! The search for distinct names with a given first letter: candidates are drawn until there are
enough of them or the draws are used up. Names that differ in the case of letters only are one. -/

namespace MooseHerd.Names

/-- Whether a name begins with the letter, in either case. -/
def startsWithLetter (letter : Char) (name : String) : Bool :=
  match name.toList with
  | [] => false
  | first :: _ => Text.lowerChar first == Text.lowerChar letter

/-- The names found so far, each under its lower-case form, in ascending order of these forms. -/
abbrev Found := List (String × String)

/-- Adds a name, unless one with the same lower-case form is there. -/
def Found.add (key name : String) : Found → Found
  | [] => [(key, name)]
  | (k, n) :: rest =>
    if key < k then (key, name) :: (k, n) :: rest
    else if key = k then (k, n) :: rest
    else (k, n) :: Found.add key name rest

def Found.consider (letter : Char) (found : Found) (candidate : String) : Found :=
  if startsWithLetter letter candidate then found.add (Text.lowercase candidate) candidate
  else found

/-- A search under way: what was found, how many candidates were drawn, and the state that the next
one comes from. -/
structure Search (σ : Type) where
  found : Found := []
  attempts : Nat := 0
  state : σ

def Search.step {σ : Type} (draw : σ → String × σ) (letter : Char) (s : Search σ) : Search σ :=
  let (candidate, state) := draw s.state
  { found := s.found.consider letter candidate, attempts := s.attempts + 1, state }

/-- Draws until `count` names are found, at most as often as the budget says. -/
def Search.run {σ : Type} (draw : σ → String × σ) (letter : Char) (count : Nat) :
    Nat → Search σ → Search σ
  | 0, s => s
  | budget + 1, s =>
    if s.found.length < count then run draw letter count budget (s.step draw letter) else s

/-- Names that were found, and the number of candidates that it took. -/
structure NameList where
  names : List String
  attempts : Nat
  deriving Repr, BEq, Inhabited

def search {σ : Type} (draw : σ → String × σ) (letter : Char) (limit count : Nat) (state : σ) :
    Except Error NameList × σ :=
  let s := Search.run draw letter count limit { state }
  if s.found.length < count then
    (.error (.namesExhausted letter count s.found.length s.attempts), s.state)
  else (.ok { names := s.found.map (·.2), attempts := s.attempts }, s.state)

/-- A candidate from a source, the random words being part of the state. -/
def drawFrom {ν ρ : Type} [NameSource ν ρ] (state : ν × ρ) : String × ν × ρ :=
  NameSource.draw state.1 state.2

/-- The report of a search that found enough. -/
def NameList.event (letter : Char) (list : NameList) : Log.Event where
  level := .debug
  target := "moose_generator::generators::names"
  message := "名字生成完成"
  fields := [("count", .count list.names.length), ("attempts", .count list.attempts),
    ("letter", .shown letter.toString)]

end MooseHerd.Names
