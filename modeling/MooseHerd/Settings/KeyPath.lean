import MooseHerd.Decimal.Reader

/-! Ways to values within settings: a name, then names after dots and positions in brackets. -/

namespace MooseHerd.Settings

inductive KeyStep where
  | name (s : String)
  /-- A position in a list; negative ones count from its end. -/
  | position (i : Int)
  deriving Repr, BEq, DecidableEq, Inhabited

/-- The steps to a value, from the outermost table. -/
abbrev KeyPath := List KeyStep

namespace KeyPath

def isNameChar (c : Char) : Bool := c.isAlphanum || c = '_' || c = '-'

def takeName? (cs : List Char) : Option (KeyStep × List Char) :=
  match cs.span isNameChar with
  | ([], _) => none
  | (name, rest) => some (.name (String.ofList name), rest)

def isSpace (c : Char) : Bool := c = ' ' || c = '\t'

/-- A position, after its opening bracket. -/
def takePosition? (cs : List Char) : Option (KeyStep × List Char) :=
  let (negative, cs) := match cs.dropWhile isSpace with
    | '-' :: rest => (true, rest)
    | cs => (false, cs)
  let (ds, rest) := cs.span Char.isDigit
  match Decimal.digits? ds, rest.dropWhile isSpace with
  | some n, ']' :: rest =>
    let i : Int := if negative then -(n : Int) else n
    if Decimal.isInt64 i then some (.position i, rest) else none
  | _, _ => none

def takeSteps : Nat → List Char → Option KeyPath
  | _, [] => some []
  | 0, _ => none
  | fuel + 1, '.' :: rest => do
    let (step, rest) ← takeName? rest
    return step :: (← takeSteps fuel rest)
  | fuel + 1, '[' :: rest => do
    let (step, rest) ← takePosition? rest
    return step :: (← takeSteps fuel rest)
  | _, _ => none

def parse? (s : String) : Option KeyPath := do
  let (step, rest) ← takeName? s.toList
  return step :: (← takeSteps rest.length rest)

/-- The way that a key stands for. One that is not written as a way is a plain name. -/
def ofKey (s : String) : KeyPath := (parse? s).getD [.name s]

end KeyPath

end MooseHerd.Settings
