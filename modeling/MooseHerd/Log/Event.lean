/-! What a program reports about its work while it runs. -/

namespace MooseHerd.Log

/-- How detailed a report is. -/
inductive Level where
  | error
  | warn
  | info
  | debug
  | trace
  deriving Repr, BEq, DecidableEq, Inhabited

/-- The place in the order from the most urgent to the most detailed level. -/
def Level.detail : Level → Nat
  | error => 1
  | warn => 2
  | info => 3
  | debug => 4
  | trace => 5

def Level.label : Level → String
  | error => "ERROR"
  | warn => "WARN"
  | info => "INFO"
  | debug => "DEBUG"
  | trace => "TRACE"

/-- The value of a field. A text keeps its quotation marks in a plain line, what is shown by its
owner does not have any. -/
inductive FieldValue where
  | text (s : String)
  | shown (s : String)
  | count (n : Nat)
  | real (x : Float)
  | flag (b : Bool)
  deriving Repr, BEq, Inhabited

/-- A report: its level, the part of the program that it comes from, a message and fields. -/
structure Event where
  level : Level
  target : String
  message : String
  fields : List (String × FieldValue) := []
  deriving Repr, BEq, Inhabited

end MooseHerd.Log
