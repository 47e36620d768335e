import MooseHerd.Http.Charset
import MooseHerd.Http.Fault
import MooseHerd.Http.Url
import MooseHerd.Log.Event

/-! Requests to a server and what comes back. A network is a state that every exchange may change;
nothing else about it is known to the code that uses it. What carries a request may report about it
too, but the value that shows the sender is marked as sensitive and is not told in reports. -/

namespace MooseHerd.Http

structure Request where
  url : Url
  /-- How the sender shows who it is. -/
  authorization : Option String
  contentType : String
  body : String
  deriving Repr, BEq, Inhabited

def Request.line (r : Request) : String := "POST " ++ r.url.requestTarget ++ " HTTP/1.1"

/-- A request as reports may tell of it: of what shows the sender only that it is there. -/
def Request.outline (r : Request) : Request :=
  { r with authorization := r.authorization.map fun _ => "Sensitive" }

structure Answer where
  status : Nat
  contentType : Option String := none
  body : List UInt8
  /-- Whether the whole body came. -/
  complete : Bool := true
  /-- Whether what is missing was awaited until the time was over. -/
  stalled : Bool := false
  deriving Repr, BEq, DecidableEq, Inhabited

namespace Answer

def isSuccess (a : Answer) : Bool := 200 ≤ a.status && a.status < 300

def isBodiless (a : Answer) : Bool := a.status ∈ [101, 204, 304]

def bytes? (a : Answer) : Option (List UInt8) :=
  if a.isBodiless then some [] else if a.complete then some a.body else none

def text? (a : Answer) : Option String :=
  a.bytes?.map (Charset.ofContentType a.contentType).decode

/-- Why there is no document in the body. -/
def bodyFault (a : Answer) : Fault :=
  if a.bytes?.isNone && a.stalled then .timeout else .undecodable

end Answer

class Network (ν : Type) where
  /-- Sends a request and waits for its answer. If the server redirects the request and that is
  followed, this is part of the exchange, and the answer is the last one. -/
  exchange : ν → Request → Except Fault Answer × ν
  /-- What is reported while a request is carried, given its outline. -/
  reports : ν → Request → List Log.Event := fun _ _ => []

end MooseHerd.Http
