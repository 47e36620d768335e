import MooseHerd.Manifest
import MooseHerd.Store.Basic

/-! Handing a batch of manifests to a store, one after the other. The first failure ends the batch;
what was created before it stays. -/

namespace MooseHerd

/-- What happens while a batch is handed over. -/
inductive Step where
  /-- A document is handed to the store. -/
  | submitted (target : Target) (doc : Json)
  | reported (event : Log.Event)
  /-- A document comes back from the store. -/
  | created (doc : Json)

/-- A batch that was handed over completely. -/
structure Report where
  requested : Nat
  created : Nat
  /-- The documents as the store keeps them. -/
  stored : List Json
  deriving Repr, BEq, Inhabited

def Report.isComplete (r : Report) : Bool := r.created == r.requested

def submit {σ : Type} [ObjectStore σ] (target : Target) (store : σ) (m : Manifest) : Reply × σ :=
  ObjectStore.create store target m.document

namespace Populate

def createdEvent (target : Target) (name : String) (created total : Nat) : Log.Event where
  level := .info
  target := "moose_generator::populate"
  message := "Moose 已创建"
  fields := [("name", .text name), ("namespace", .shown target.space),
    ("created", .count created), ("total", .count total)]

def failureEvent (name : String) (e : Error) (created total : Nat) : Log.Event where
  level := .error
  target := "moose_generator::populate"
  message := "Moose 创建失败，停止提交: " ++ e.message
  fields := [("name", .text name), ("code", .text e.code), ("retryable", .flag e.isRetryable),
    ("created", .count created), ("total", .count total)]

/-- A batch that was handed over as far as the store let it: the documents that came back, why it
stopped if it did, and what happened. -/
structure Course (σ : Type) where
  stored : List Json
  failure : Option Error
  steps : List Step
  store : σ

/-- Hands over the manifests of a batch that come after the first `created` ones. -/
def course {σ : Type} [ObjectStore σ] (target : Target) (total : Nat) :
    Nat → List Manifest → σ → Course σ
  | _, [], store => { stored := [], failure := none, steps := [], store }
  | created, m :: rest, store =>
    let (reply, store) := submit target store m
    let before := .submitted target m.document :: reply.events.map .reported
    match reply.result with
    | .ok doc =>
      let c := course target total (created + 1) rest store
      let during := [.reported (createdEvent target m.name (created + 1) total), .created doc]
      { c with stored := doc :: c.stored, steps := before ++ during ++ c.steps }
    | .error e =>
      { stored := []
        failure := some (.aborted created total m.name e)
        steps := before ++ [.reported (failureEvent m.name e created total)]
        store }

end Populate

/-- The end of a batch, with what happened until then. -/
structure Outcome (σ : Type) where
  result : Except Error Report
  steps : List Step
  store : σ

def populate {σ : Type} [ObjectStore σ] (target : Target) (store : σ) (batch : List Manifest) :
    Outcome σ :=
  let c := Populate.course target batch.length 0 batch store
  let result := match c.failure with
    | some e => .error e
    | none => .ok { requested := batch.length, created := c.stored.length, stored := c.stored }
  { result, steps := c.steps, store := c.store }

/-- The documents that came back, in order. -/
def Step.documents (steps : List Step) : List Json :=
  steps.filterMap fun
    | created doc => some doc
    | _ => none

def Step.events (steps : List Step) : List Log.Event :=
  steps.filterMap fun
    | reported event => some event
    | _ => none

end MooseHerd
