/-! Configuration documents: tables of named values. -/

namespace MooseHerd

/-- A value of a configuration document. The members of a table are in the order in which they
appear; no name occurs twice. -/
inductive Toml where
  | text (s : String)
  | whole (n : Int)
  | real (x : Float)
  | flag (b : Bool)
  /-- A date, a time of day or both, in their standard form. -/
  | moment (s : String)
  | array (items : List Toml)
  | table (members : List (String × Toml))
  deriving Repr, BEq, Inhabited

end MooseHerd
