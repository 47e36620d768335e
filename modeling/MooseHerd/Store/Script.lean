import MooseHerd.Store.Basic

/-! A store that answers as it was told to and remembers what it was asked. -/

namespace MooseHerd

inductive ScriptStore.Answer where
  /-- The document of the request. -/
  | echo
  | document (doc : Json)
  | failure (e : Error)

structure ScriptStore where
  /-- The answers to the next requests; after them every document is echoed. -/
  answers : List ScriptStore.Answer := []
  /-- The requests so far, in order. -/
  requests : List (Target × Json) := []

instance : ObjectStore ScriptStore where
  create store target doc :=
    let result := match store.answers.head? with
      | some (.document doc) => .ok doc
      | some (.failure e) => .error e
      | some .echo | none => .ok doc
    ({ result }, ⟨store.answers.tail, store.requests ++ [(target, doc)]⟩)

end MooseHerd
