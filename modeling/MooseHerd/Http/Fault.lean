/-! What can go wrong with a request before there is an answer to look at. -/

namespace MooseHerd

/-- Why an exchange with a server has no usable result. -/
inductive Http.Fault where
  /-- The client or the request cannot be put together. -/
  | unsendable
  /-- Nothing accepts the connection. -/
  | unreachable
  /-- The answer does not come within the time allowed. -/
  | timeout
  /-- The connection ends before the answer. -/
  | closed
  /-- The body of the answer is cut off or is no document. -/
  | undecodable
  deriving Repr, BEq, DecidableEq, Inhabited

def Http.Fault.isTransient : Http.Fault → Bool
  | unreachable | timeout => true
  | unsendable | closed | undecodable => false

/-- The fault in words. The address and what is behind the fault are not told. -/
def Http.Fault.message : Http.Fault → String
  | unsendable => "builder error"
  | unreachable => "error sending request: connection refused"
  | timeout => "error sending request: operation timed out"
  | closed => "error sending request: connection closed before message completed"
  | undecodable => "error decoding response body"

end MooseHerd
