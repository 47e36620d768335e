import MooseHerd.Proofs.Populate.Course

/-! # What is reported about a batch

A store may report what it likes while it answers. Between that a batch tells of every document that
came back, as the next one of all, and of the error that ended it. -/

namespace MooseHerd

namespace Step

@[simp]
theorem events_submitted (target : Target) (doc : Json) (steps : List Step) :
    events (.submitted target doc :: steps) = events steps := rfl

@[simp]
theorem events_created (doc : Json) (steps : List Step) :
    events (.created doc :: steps) = events steps := rfl

@[simp]
theorem events_reports (reports : List Log.Event) (steps : List Step) :
    events (reports.map .reported ++ steps) = reports ++ events steps := by
  induction reports with
  | nil => rfl
  | cons event reports ih => exact congrArg (event :: ·) ih

end Step

namespace Populate

variable {σ : Type} [ObjectStore σ] (target : Target)

/-- What a store replies to the documents of a batch, one after the other. -/
def replies : List Manifest → σ → List Reply
  | [], _ => []
  | m :: rest, store =>
    (ObjectStore.create store target m.document).1 ::
      replies rest (ObjectStore.create store target m.document).2

theorem map_result_replies : ∀ (batch : List Manifest) (store : σ),
    (replies target batch store).map (·.result) = answers target batch store
  | [], _ => rfl
  | _ :: rest, _ => congrArg (_ :: ·) (map_result_replies rest _)

theorem length_replies (batch : List Manifest) (store : σ) :
    (replies target batch store).length = batch.length := by
  rw [← length_answers target batch store, ← map_result_replies, List.length_map]

/-- The reports on manifests whose documents came back, when `created` of `total` did before: those
of the store, then that the document is there, with its number. -/
def progress (total created : Nat) (done : List (Manifest × Reply)) : List Log.Event :=
  (done.zipIdx created).flatMap fun ((m, reply), i) =>
    reply.events ++ [{
      level := .info
      target := "moose_generator::populate"
      message := "Moose 已创建"
      fields := [("name", .text m.name), ("namespace", .shown target.space),
        ("created", .count (i + 1)), ("total", .count total)] }]

theorem progress_cons (total created : Nat) (m : Manifest) (reply : Reply)
    (done : List (Manifest × Reply)) :
    progress target total created ((m, reply) :: done) =
      reply.events ++ [createdEvent target m.name (created + 1) total] ++
        progress target total (created + 1) done := by
  simp only [progress, List.zipIdx_cons, List.flatMap_cons]
  rfl

/-- A batch reports its documents one by one, and its error if it has one. -/
theorem events_course (total : Nat) : ∀ (batch : List Manifest) (created : Nat) (store : σ),
    let c := course target total created batch store
    let done := (batch.zip (replies target batch store)).take c.stored.length
    (c.failure = none ∧ Step.events c.steps = progress target total created done) ∨
    (∃ m reply e, batch[c.stored.length]? = some m ∧
      (replies target batch store)[c.stored.length]? = some reply ∧ reply.result = .error e ∧
      c.failure = some (.aborted (created + c.stored.length) total m.name e) ∧
      Step.events c.steps = progress target total created done ++ reply.events ++
        [failureEvent m.name e (created + c.stored.length) total])
  | [], _, _ => .inl ⟨rfl, rfl⟩
  | m :: rest, created, store => by
    rcases h : ObjectStore.create store target m.document with ⟨⟨e | doc, events⟩, after⟩
    · rw [course_cons_error h]
      refine .inr ⟨m, ⟨.error e, events⟩, e, rfl, ?_, rfl, rfl, ?_⟩
      · rw [replies, h]
        rfl
      · rw [Step.events_submitted, Step.events_reports]
        exact List.append_nil _
    · rw [course_cons_ok h]
      have hsteps : ∀ later : List Step,
          Step.events (.submitted target m.document ::
            ((events ++ [createdEvent target m.name (created + 1) total]).map .reported ++
              .created doc :: later)) =
            events ++ [createdEvent target m.name (created + 1) total] ++ Step.events later := by
        intro later
        rw [Step.events_submitted, Step.events_reports, Step.events_created]
      rcases events_course total rest (created + 1) after with
        ⟨hfailure, hevents⟩ | ⟨last, reply, e, hlast, hreply, hresult, hfailure, hevents⟩
      · refine .inl ⟨hfailure, ?_⟩
        rw [hsteps, hevents, replies, h, List.zip_cons_cons, List.length_cons,
          List.take_succ_cons, progress_cons]
      · have hshift : ∀ k, (course target total (created + 1) rest after).stored.length = k →
            created + (k + 1) = created + 1 + k := fun k _ => by omega
        refine .inr ⟨last, reply, e, ?_, ?_, hresult, ?_, ?_⟩
        · rw [List.length_cons, List.getElem?_cons_succ, hlast]
        · rw [replies, h, List.length_cons, List.getElem?_cons_succ, hreply]
        · rw [hfailure, List.length_cons, hshift _ rfl]
        · rw [hsteps, hevents, replies, h, List.zip_cons_cons, List.length_cons,
            List.take_succ_cons, progress_cons, hshift _ rfl]
          simp only [List.append_assoc]

end Populate

end MooseHerd
