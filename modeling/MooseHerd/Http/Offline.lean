import MooseHerd.Http.Exchange

/-! A network on which no server can be reached. -/

namespace MooseHerd.Http

/-- A place without a connection to anything. -/
structure Offline where

instance : Network Offline where
  exchange place _ := (.error .unreachable, place)

end MooseHerd.Http
