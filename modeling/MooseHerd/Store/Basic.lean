import MooseHerd.Error
import MooseHerd.Json.Basic
import MooseHerd.Log.Event
import MooseHerd.Target

/-! Stores of documents. A store is a state that every request to create a document may change;
nothing else about it is known to the code that uses it. -/

namespace MooseHerd

/-- The answer to a request: the document as it is stored, or why there is none. -/
structure Reply where
  result : Except Error Json
  events : List Log.Event := []

/-- The same answer with what was reported before it. -/
def Reply.after (events : List Log.Event) (reply : Reply) : Reply :=
  { reply with events := events ++ reply.events }

class ObjectStore (σ : Type) where
  /-- Asks for a document to be created in a collection. -/
  create : σ → Target → Json → Reply × σ

def documentName? (doc : Json) : Option String :=
  ((doc.member? "metadata").bind (·.member? "name")).bind Json.string?

end MooseHerd
