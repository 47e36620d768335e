import MooseHerd.Http.Exchange

/-! A network with a single server that answers as it was told to and remembers its requests. -/

namespace MooseHerd.Http

/-- What the server does with a request. -/
inductive ScriptedServer.Turn where
  | answer (a : Answer)
  /-- It takes the request and ends the connection. -/
  | close
  /-- It takes the request and never answers. -/
  | hang

structure ScriptedServer where
  /-- Where the server is. -/
  address : String
  /-- Whether it takes connections at all. -/
  listens : Bool := true
  turns : List ScriptedServer.Turn := []
  /-- The requests so far, in order. -/
  requests : List Request := []

namespace ScriptedServer

/-- What the server says when it has been told nothing. -/
def exhausted : Answer := { status := 500, body := Text.Utf8.encode "no response left" }

/-- The answer that reaches the other side. Statuses below 200 announce an answer that then does not
come, but for a switch of protocols. -/
def delivered (a : Answer) : Except Fault Answer :=
  if a.status < 100 ∨ 999 < a.status ∨ (a.status < 200 ∧ a.status ≠ 101) then .error .closed
  else .ok a

def exchange (server : ScriptedServer) (request : Request) :
    Except Fault Answer × ScriptedServer :=
  if !server.listens || request.url.server != server.address then (.error .unreachable, server)
  else
    let requests := server.requests ++ [request]
    match server.turns with
    | [] => (.ok exhausted, { server with requests })
    | turn :: turns =>
      let result := match turn with
        | .answer a => delivered a
        | .close => .error .closed
        | .hang => .error .timeout
      (result, { server with turns, requests })

instance : Network ScriptedServer where
  exchange := exchange

end ScriptedServer

end MooseHerd.Http
