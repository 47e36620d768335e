import MooseHerd.Populate

/-! # What a store sees of a batch

A batch is handed over until the store answers with an error. The store is any state transition, so
what it is asked, what the caller is given and what the batch comes to are all told by its answers.
-/

namespace MooseHerd

/-- The requests to the store and the documents that the caller is given, in order. -/
def Step.exchanged (steps : List Step) : List Step :=
  steps.filter fun
    | reported _ => false
    | _ => true

namespace Step

@[simp]
theorem exchanged_nil : exchanged [] = [] := rfl

@[simp]
theorem exchanged_submitted (target : Target) (doc : Json) (steps : List Step) :
    exchanged (.submitted target doc :: steps) = .submitted target doc :: exchanged steps := rfl

@[simp]
theorem exchanged_created (doc : Json) (steps : List Step) :
    exchanged (.created doc :: steps) = .created doc :: exchanged steps := rfl

@[simp]
theorem exchanged_reported (event : Log.Event) (steps : List Step) :
    exchanged (.reported event :: steps) = exchanged steps := rfl

@[simp]
theorem exchanged_reports (events : List Log.Event) (steps : List Step) :
    exchanged (events.map .reported ++ steps) = exchanged steps := by
  induction events with
  | nil => rfl
  | cons event events ih => rw [List.map_cons, List.cons_append, exchanged_reported, ih]

/-- Reports hold no documents. -/
theorem documents_exchanged (steps : List Step) :
    documents (exchanged steps) = documents steps := by
  induction steps with
  | nil => rfl
  | cons step steps ih =>
    cases step with
    | submitted target doc => exact ih
    | reported event => exact ih
    | created doc => exact congrArg (doc :: ·) ih

end Step

namespace Populate

variable {σ : Type} [ObjectStore σ] (target : Target)

/-! ## The store on its own -/

/-- What a store answers to the documents of a batch, one after the other, whatever it answers. -/
def answers : List Manifest → σ → List (Except Error Json)
  | [], _ => []
  | m :: rest, store =>
    (ObjectStore.create store target m.document).1.result ::
      answers rest (ObjectStore.create store target m.document).2

/-- What these documents make of the store. -/
def storeAfter (batch : List Manifest) (store : σ) : σ :=
  batch.foldl (fun store m => (ObjectStore.create store target m.document).2) store

/-- The documents of a batch are requested in its order, and what comes back is given to the caller
before the next request. -/
def exchanges (batch : List Manifest) (docs : List Json) : List Step :=
  (batch.zip docs).flatMap fun (m, doc) => [.submitted target m.document, .created doc]

variable {target} in
theorem answers_cons {m : Manifest} {rest : List Manifest} {store after : σ} {reply : Reply}
    (h : ObjectStore.create store target m.document = (reply, after)) :
    answers target (m :: rest) store = reply.result :: answers target rest after := by
  simp only [answers, h]

variable {target} in
theorem storeAfter_cons {m : Manifest} {rest : List Manifest} {store after : σ} {reply : Reply}
    (h : ObjectStore.create store target m.document = (reply, after)) :
    storeAfter target (m :: rest) store = storeAfter target rest after := by
  simp only [storeAfter, List.foldl_cons, h]

theorem length_answers : ∀ (batch : List Manifest) (store : σ),
    (answers target batch store).length = batch.length
  | [], _ => rfl
  | _ :: rest, _ => congrArg (· + 1) (length_answers rest _)

theorem getElem?_answers : ∀ (batch : List Manifest) (store : σ) (i : Nat),
    (answers target batch store)[i]? = batch[i]?.map fun m =>
      (ObjectStore.create (storeAfter target (batch.take i) store) target m.document).1.result
  | [], _, _ => rfl
  | _ :: _, _, 0 => rfl
  | _ :: rest, _, i + 1 => getElem?_answers rest _ i

/-- The answers do not depend on what comes later. -/
theorem answers_take : ∀ (n : Nat) (batch : List Manifest) (store : σ),
    answers target (batch.take n) store = (answers target batch store).take n
  | 0, _, _ => rfl
  | _ + 1, [], _ => rfl
  | n + 1, _ :: rest, _ => congrArg (_ :: ·) (answers_take n rest _)

theorem documents_exchanges : ∀ {batch : List Manifest} {docs : List Json},
    docs.length ≤ batch.length → Step.documents (exchanges target batch docs) = docs
  | [], [], _ => rfl
  | _ :: _, [], _ => rfl
  | [], _ :: _, h => absurd h (Nat.not_succ_le_zero _)
  | _ :: _, doc :: _, h =>
    congrArg (doc :: ·) (documents_exchanges (Nat.le_of_succ_le_succ h))

/-! ## One manifest -/

variable {target}

theorem course_cons_ok {total created : Nat} {m : Manifest} {rest : List Manifest} {store after : σ}
    {doc : Json} {events : List Log.Event}
    (h : ObjectStore.create store target m.document = (⟨.ok doc, events⟩, after)) :
    course target total created (m :: rest) store =
      let c := course target total (created + 1) rest after
      let reports := events ++ [createdEvent target m.name (created + 1) total]
      { c with
        stored := doc :: c.stored
        steps := .submitted target m.document ::
          (reports.map .reported ++ .created doc :: c.steps) } := by
  simp only [course, submit, h, List.map_append, List.map_cons, List.map_nil, List.cons_append,
    List.append_assoc, List.nil_append]

theorem course_cons_error {total created : Nat} {m : Manifest} {rest : List Manifest}
    {store after : σ} {e : Error} {events : List Log.Event}
    (h : ObjectStore.create store target m.document = (⟨.error e, events⟩, after)) :
    course target total created (m :: rest) store =
      let reports := events ++ [failureEvent m.name e created total]
      { stored := []
        failure := some (.aborted created total m.name e)
        steps := .submitted target m.document :: (reports.map .reported ++ [])
        store := after } := by
  simp only [course, submit, h, List.map_append, List.map_cons, List.map_nil, List.cons_append,
    List.append_nil]

/-! ## A whole batch -/

variable (target)

/-- A batch goes on from manifest to manifest as long as the store answers with documents. -/
theorem course_cases (total : Nat) : ∀ (batch : List Manifest) (created : Nat) (store : σ),
    let c := course target total created batch store
    (answers target batch store = c.stored.map .ok ∧ c.failure = none ∧
      Step.exchanged c.steps = exchanges target batch c.stored ∧
      c.store = storeAfter target batch store) ∨
    (∃ m e later, batch[c.stored.length]? = some m ∧
      answers target batch store = c.stored.map .ok ++ .error e :: later ∧
      c.failure = some (.aborted (created + c.stored.length) total m.name e) ∧
      Step.exchanged c.steps =
        exchanges target batch c.stored ++ [.submitted target m.document] ∧
      c.store = storeAfter target (batch.take (c.stored.length + 1)) store)
  | [], _, _ => .inl ⟨rfl, rfl, rfl, rfl⟩
  | m :: rest, created, store => by
    rcases h : ObjectStore.create store target m.document with ⟨⟨e | doc, events⟩, after⟩
    · -- nothing of the rest is asked for
      rw [course_cons_error h]
      refine .inr ⟨m, e, answers target rest after, rfl, answers_cons h, rfl, ?_, ?_⟩
      · simp only [Step.exchanged_submitted, Step.exchanged_reports, Step.exchanged_nil]
        rfl
      · show after = storeAfter target (m :: rest.take 0) store
        rw [storeAfter_cons h]
        rfl
    · rw [course_cons_ok h]
      rcases course_cases total rest (created + 1) after with
        ⟨hrest, hfailure, hsteps, hafter⟩ |
        ⟨last, e, later, hlast, hrest, hfailure, hsteps, hafter⟩
      · refine .inl ⟨?_, hfailure, ?_, ?_⟩
        · rw [answers_cons h, hrest, List.map_cons]
        · simp only [Step.exchanged_submitted, Step.exchanged_reports, Step.exchanged_created,
            hsteps]
          rfl
        · rw [storeAfter_cons h, hafter]
      · refine .inr ⟨last, e, later, ?_, ?_, ?_, ?_, ?_⟩
        · rw [List.length_cons, List.getElem?_cons_succ, hlast]
        · rw [answers_cons h, hrest, List.map_cons, List.cons_append]
        · rw [hfailure, List.length_cons]
          congr 2
          omega
        · simp only [Step.exchanged_submitted, Step.exchanged_reports, Step.exchanged_created,
            hsteps]
          rfl
        · rw [List.length_cons, List.take_succ_cons, storeAfter_cons h, hafter]

/-- A batch whose documents all come back is complete. -/
theorem populate_of_answers {batch : List Manifest} {store : σ} {docs : List Json}
    (h : answers target batch store = docs.map .ok) :
    (populate target store batch).result =
      .ok { requested := batch.length, created := docs.length, stored := docs } ∧
    (populate target store batch).store = storeAfter target batch store := by
  rcases course_cases target batch.length batch 0 store with
    ⟨hanswers, hfailure, -, hstore⟩ | ⟨m, e, later, -, hanswers, -⟩
  · have hstored : (course target batch.length 0 batch store).stored = docs :=
      (List.map_inj_right fun _ _ => Except.ok.inj).mp (hanswers.symm.trans h)
    refine ⟨?_, hstore⟩
    simp only [populate, hfailure, hstored]
  · have herror : Except.error e ∈ docs.map (Except.ok (ε := Error)) := by
      rw [← h, hanswers]
      exact List.mem_append_right _ List.mem_cons_self
    obtain ⟨doc, -, hdoc⟩ := List.mem_map.mp herror
    cases hdoc

/-- **A batch does what its store answers.** The store is asked for the documents of the batch in
order and for none after its first error, and the caller is given every document that comes back
before the next one is asked for. Without an error the batch is complete; otherwise it tells how
many documents there are, at which one it stopped and why. -/
theorem populate_follows_answers (batch : List Manifest) (store : σ) :
    let outcome := populate target store batch
    (∃ docs, answers target batch store = docs.map .ok ∧
      (∃ report, outcome.result = .ok report ∧ report.requested = batch.length ∧
        report.created = batch.length ∧ report.isComplete = true ∧ report.stored = docs) ∧
      Step.exchanged outcome.steps = exchanges target batch docs ∧
      Step.documents outcome.steps = docs ∧
      outcome.store = storeAfter target batch store) ∨
    (∃ docs m e later, answers target batch store = docs.map .ok ++ .error e :: later ∧
      batch[docs.length]? = some m ∧
      (∃ failure, outcome.result = .error failure ∧
        failure = .aborted docs.length batch.length m.name e ∧
        failure.code = e.code ∧ failure.isRetryable = e.isRetryable) ∧
      Step.exchanged outcome.steps =
        exchanges target batch docs ++ [.submitted target m.document] ∧
      Step.documents outcome.steps = docs ∧
      outcome.store = storeAfter target (batch.take (docs.length + 1)) store) := by
  intro outcome
  rcases course_cases target batch.length batch 0 store with
    ⟨hanswers, hfailure, hsteps, hstore⟩ |
    ⟨m, e, later, hm, hanswers, hfailure, hsteps, hstore⟩
  · have hlength := length_answers target batch store
    rw [hanswers, List.length_map] at hlength
    refine .inl ⟨_, hanswers, ⟨⟨batch.length, batch.length, _⟩, ?_, rfl, rfl, ?_, rfl⟩, hsteps, ?_,
      hstore⟩
    · simp only [outcome, populate, hfailure, hlength]
    · exact beq_self_eq_true batch.length
    · rw [← Step.documents_exchanged]
      exact (congrArg Step.documents hsteps).trans
        (documents_exchanges target (Nat.le_of_eq hlength))
  · have hlength := (List.getElem?_eq_some_iff.mp hm).1
    refine .inr ⟨_, m, e, later, hanswers, hm, ⟨_, ?_, rfl, rfl, rfl⟩, hsteps, ?_, hstore⟩
    · simp only [outcome, populate, hfailure, Nat.zero_add]
    · rw [← Step.documents_exchanged]
      refine (congrArg Step.documents hsteps).trans ?_
      rw [Step.documents, List.filterMap_append]
      exact (List.append_nil _).trans (documents_exchanges target (Nat.le_of_lt hlength))

end Populate

end MooseHerd
