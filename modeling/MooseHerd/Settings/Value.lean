import MooseHerd.Settings.KeyPath

/-! Values of settings before they are read as fields, and how one layer of them is laid over
another. -/

namespace MooseHerd.Settings

inductive Scalar where
  /-- A place that was made for others after it. -/
  | nothing
  | flag (b : Bool)
  | whole (n : Int)
  | real (x : Float)
  | text (s : String)
  deriving Repr, BEq, Inhabited

/-- A value, with the layer that it comes from where that is known. -/
inductive Value where
  | scalar (s : Scalar) (origin : Option String)
  | list (items : List Value) (origin : Option String)
  | table (members : List (String × Value)) (origin : Option String)
  deriving Repr, BEq, Inhabited

namespace Value

def nothing : Value := .scalar .nothing none

def members : Value → List (String × Value)
  | table members _ => members
  | _ => []

/-- The items of a list; what is no list has none. -/
def items : Value → List Value
  | list items _ => items
  | _ => []

/-- The table itself, or an empty one in the place of another value. -/
def asTable : Value → Value
  | table members origin => table members origin
  | _ => table [] none

def asList : Value → Value
  | list items origin => list items origin
  | _ => list [] none

def withMembers (members : List (String × Value)) : Value → Value
  | table _ origin => table members origin
  | v => v

def withItems (items : List Value) : Value → Value
  | list _ origin => list items origin
  | v => v

/-- Changes the member of that name, which is `nothing` before if there is none. -/
def changeMember (name : String) (change : Value → Value) :
    List (String × Value) → List (String × Value)
  | [] => [(name, change nothing)]
  | (k, v) :: rest =>
    if k = name then (name, change v) :: rest else (k, v) :: changeMember name change rest

/-- Items with a place for the position, and where that place is. -/
def makeRoom (i : Int) (items : List Value) : Nat × List Value :=
  let length : Int := items.length
  let place := if i < 0 then length + i else i
  if place < 0 then (0, List.replicate place.natAbs nothing ++ items)
  else (place.toNat, items ++ List.replicate (place.toNat + 1 - items.length) nothing)

/-- Changes the value at the end of a way. What is in the way is replaced. -/
def change (f : Value → Value) : KeyPath → Value → Value
  | [], v => f v
  | .name name :: rest, v =>
    let v := v.asTable
    v.withMembers (changeMember name (change f rest) v.members)
  | .position i :: rest, v =>
    let v := v.asList
    let (place, items) := makeRoom i v.items
    v.withItems (items.modify place (change f rest))

mutual

/-- Lays a value over another one. Tables are laid over each other member by member; any other value
takes the place of the one below. -/
def onto : Value → Value → Value
  | .table members _, below =>
    let below := below.asTable
    below.withMembers (ontoMembers members below.members)
  | above, _ => above

def ontoMembers : List (String × Value) → List (String × Value) → List (String × Value)
  | [], below => below
  | (name, above) :: rest, below => ontoMembers rest (changeMember name above.onto below)

end

/-- Lays the members of a layer over the values so far. Their names are ways to values. -/
def addLayer (layer : List (String × Value)) (below : Value) : Value :=
  layer.foldl (fun below (key, above) => change above.onto (KeyPath.ofKey key) below) below

/-- The values of several layers, of which the later ones go before. -/
def ofLayers (layers : List (List (String × Value))) : Value :=
  layers.foldl (fun below layer => addLayer layer below) (.table [] none)

end Value

end MooseHerd.Settings
