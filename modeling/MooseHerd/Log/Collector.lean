import MooseHerd.Log.Filter
import MooseHerd.Log.Layout

/-! Where reports go: a filter that keeps some of them and the form in which these are written. A
program has at most one such place. -/

namespace MooseHerd.Log

structure Collector where
  filter : Filter
  layout : Layout
  /-- The time that lines tell, if they tell one. -/
  time : Option String := none

def Collector.lines (c : Collector) (events : List Event) : List String :=
  (events.filter c.filter.admits).map (c.layout.line c.time)

/-- Puts a collector in its place, which must be empty. -/
def Collector.install (current : Option Collector) (c : Collector) : Except String Collector :=
  match current with
  | none => .ok c
  | some _ => .error "a global default trace dispatcher has already been set"

end MooseHerd.Log
