import MooseHerd.Toml.Statement

/-! Documents from their statements. A table may be written in parts, but no part of it twice, and
what one way of writing has begun another one must not go on with. -/

namespace MooseHerd.Toml

/-- How a table came to be. -/
inductive Origin where
  /-- By the header of a table within it. -/
  | onTheWay
  /-- By keys with dots. -/
  | dotted
  /-- By its own header. -/
  | header
  deriving Repr, BEq, DecidableEq

inductive Item where
  | value (v : Toml)
  | table (origin : Origin) (members : List (String × Item))
  | tables (elements : List (List (String × Item)))
  deriving Inhabited

abbrev Items := List (String × Item)

/-- Puts an item in the place of the one with the same name, or at the end. -/
def Items.put (name : String) (item : Item) : Items → Items
  | [] => [(name, item)]
  | (k, i) :: rest => if k = name then (name, item) :: rest else (k, i) :: Items.put name item rest

def onLast (step : Items → Option Items) : List Items → Option (List Items)
  | [] => none
  | [last] => (step last).map ([·])
  | first :: rest => (onLast step rest).map (first :: ·)

/-- Goes along a key through tables and the last elements of arrays of tables, and applies a step to
the table with the last name. Tables that are missing on the way are put there. -/
def along (finish : String → Items → Option Items) : Key → Items → Option Items
  | [], _ => none
  | [name], items => finish name items
  | name :: rest, items =>
    match items.lookup name with
    | none => do return items.put name (.table .onTheWay (← along finish rest []))
    | some (.table origin members) => do
      return items.put name (.table origin (← along finish rest members))
    | some (.tables elements) => do
      return items.put name (.tables (← onLast (along finish rest) elements))
    | some (.value _) => none

/-- Opens a table by its header. One that is there only because of tables within it may be
opened. -/
def openTable (name : String) (items : Items) : Option Items :=
  match items.lookup name with
  | none => some (items.put name (.table .header []))
  | some (.table .onTheWay members) => some (items.put name (.table .header members))
  | _ => none

def openElement (name : String) (items : Items) : Option Items :=
  match items.lookup name with
  | none => some (items.put name (.tables [[]]))
  | some (.tables elements) => some (items.put name (.tables (elements ++ [[]])))
  | _ => none

/-- Sets a value under a key. The key must be new, and a table that dots lead into must have come to
be by dots; `own` tells whether the table at hand may take the value itself. -/
def assign (v : Toml) (own : Bool) : Key → Items → Option Items
  | [], _ => none
  | [name], items =>
    if own && (items.lookup name).isNone then some (items.put name (.value v)) else none
  | name :: rest, items =>
    match items.lookup name with
    | none => do return items.put name (.table .dotted (← assign v true rest []))
    | some (.table .header _) => none
    | some (.table origin members) => do
      return items.put name (.table origin (← assign v (origin == .dotted) rest members))
    | some (.tables elements) => do
      return items.put name (.tables (← onLast (assign v false rest) elements))
    | some (.value _) => none

mutual

def Item.finished : Item → Toml
  | .value v => v
  | .table _ members => .table (finishedMembers members)
  | .tables elements => .array (finishedElements elements)

def finishedMembers : List (String × Item) → List (String × Toml)
  | [] => []
  | (name, item) :: rest => (name, item.finished) :: finishedMembers rest

def finishedElements : List (List (String × Item)) → List Toml
  | [] => []
  | members :: rest => .table (finishedMembers members) :: finishedElements rest

end

mutual

/-- The value that is written. A table within a value is complete as it stands. -/
def Written.value? : Written → Option Toml
  | .scalar v => some v
  | .array items => do return .array (← valuesOf? items)
  | .table members => do return .table (finishedMembers (← membersOf? [] members))

def valuesOf? : List Written → Option (List Toml)
  | [] => some []
  | w :: rest => do return (← w.value?) :: (← valuesOf? rest)

def membersOf? (items : Items) : List (Key × Written) → Option Items
  | [] => some items
  | (key, w) :: rest => do membersOf? (← assign (← w.value?) true key items) rest

end

/-- Applies a step to the table that was opened last. -/
def within (current : Key) (step : Items → Option Items) (items : Items) : Option Items :=
  match current with
  | [] => step items
  | key =>
    along (fun name items =>
      match items.lookup name with
      | some (.table origin members) => do return items.put name (.table origin (← step members))
      | some (.tables elements) => do return items.put name (.tables (← onLast step elements))
      | _ => none) key items

def build? (current : Key) (items : Items) : List Statement → Option Items
  | [] => some items
  | .table key :: rest => do build? key (← along openTable key items) rest
  | .element key :: rest => do build? key (← along openElement key items) rest
  | .assign key w :: rest => do
    let v ← w.value?
    build? current (← within current (assign v true key) items) rest

def parse? (text : String) : Option (List (String × Toml)) := do
  return finishedMembers (← build? [] [] (← statements? text))

end MooseHerd.Toml
