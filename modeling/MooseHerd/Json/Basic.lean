/-! JSON documents. The members of an object are kept in ascending order of their names, each name
once, so that equal documents have one form. -/

namespace MooseHerd

/-- A number of a document. Whole numbers have the range of a signed or an unsigned 64-bit word;
all others are doubles. -/
inductive Json.Number where
  | whole (n : Int)
  | real (x : Float)
  deriving Repr, BEq, Inhabited

inductive Json where
  | null
  | bool (b : Bool)
  | number (n : Json.Number)
  | string (s : String)
  | array (items : List Json)
  | object (members : List (String × Json))
  deriving Repr, BEq, Inhabited

namespace Json

/-- Sets a member, at its place in the order of names. -/
def insertMember (name : String) (value : Json) : List (String × Json) → List (String × Json)
  | [] => [(name, value)]
  | (k, v) :: rest =>
    if name < k then (name, value) :: (k, v) :: rest
    else if name = k then (name, value) :: rest
    else (k, v) :: insertMember name value rest

/-- An object with the given members; of two members with one name the later counts. -/
def ofMembers (members : List (String × Json)) : Json :=
  object (members.foldl (fun acc (k, v) => insertMember k v acc) [])

/-- The member of an object, if the document is one that has it. -/
def member? (name : String) : Json → Option Json
  | object members => members.lookup name
  | _ => none

def string? : Json → Option String
  | string s => some s
  | _ => none

def ofNat (n : Nat) : Json := number (.whole n)

/-- A double as a document; what is not a finite number has no form but `null`. -/
def ofFloat (x : Float) : Json := if x.isFinite then number (.real x) else null

end Json

end MooseHerd
