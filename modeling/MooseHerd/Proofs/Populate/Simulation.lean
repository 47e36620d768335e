import MooseHerd.Proofs.Populate.Course

/-! # Stores that answer alike

If one store answers to every document of a batch as another one does, the batch comes to the
same. -/

namespace MooseHerd

/-- A report with its documents changed. -/
def Report.mapStored (f : Json → Json) (r : Report) : Report := { r with stored := r.stored.map f }

namespace Populate

section

variable {σ τ : Type} [ObjectStore σ] [ObjectStore τ]

/-- One store answers to a document as another one does, up to a change of what comes back, and both
are in related states again. -/
def AnswersAs (f : Json → Json) (R : σ → τ → Prop) (target : Target) (m : Manifest) : Prop :=
  ∀ {s : σ} {t : τ}, R s t →
    (ObjectStore.create t target m.document).1.result =
      (ObjectStore.create s target m.document).1.result.map f ∧
    R (ObjectStore.create s target m.document).2 (ObjectStore.create t target m.document).2

variable {f : Json → Json} {R : σ → τ → Prop} {target : Target}

theorem documents_reports (events : List Log.Event) (steps : List Step) :
    Step.documents (events.map .reported ++ steps) = Step.documents steps := by
  rw [← Step.documents_exchanged, Step.exchanged_reports, Step.documents_exchanged]

/-- The caller is given the documents that came back. -/
theorem documents_course (total : Nat) (batch : List Manifest) (created : Nat) (s : σ) :
    Step.documents (course target total created batch s).steps =
      (course target total created batch s).stored := by
  induction batch generalizing created s with
  | nil => rfl
  | cons m rest ih =>
    rcases h : ObjectStore.create s target m.document with ⟨⟨e | doc, events⟩, s'⟩
    · rw [course_cons_error h]
      exact documents_reports _ []
    · rw [course_cons_ok h]
      refine (documents_reports _ (.created doc :: _)).trans ?_
      exact congrArg (doc :: ·) (ih (created + 1) s')

/-- What holds of one document holds of the whole course. -/
theorem course_simulates (total : Nat) {batch : List Manifest}
    (h : ∀ m ∈ batch, AnswersAs f R target m) (created : Nat) {s : σ} {t : τ} (hst : R s t) :
    let c := course target total created batch s
    let d := course target total created batch t
    d.stored = c.stored.map f ∧ d.failure = c.failure ∧ R c.store d.store := by
  induction batch generalizing created s t with
  | nil => exact ⟨rfl, rfl, hst⟩
  | cons m rest ih =>
    obtain ⟨hm, hrest⟩ := List.forall_mem_cons.mp h
    obtain ⟨hresult, hafter⟩ := hm hst
    rcases hs : ObjectStore.create s target m.document with ⟨⟨result, events⟩, s'⟩
    rcases ht : ObjectStore.create t target m.document with ⟨⟨result', events'⟩, t'⟩
    rw [hs, ht] at hresult hafter
    dsimp only at hresult hafter
    subst hresult
    cases result with
    | error e =>
      rw [course_cons_error hs, course_cons_error ht]
      exact ⟨rfl, rfl, hafter⟩
    | ok doc =>
      obtain ⟨hstored, hfailure, hlast⟩ := ih hrest (created + 1) hafter
      rw [course_cons_ok hs, course_cons_ok ht]
      exact ⟨congrArg (f doc :: ·) hstored, hfailure, hlast⟩

/-- And of what the batch comes to. -/
theorem populate_simulates {batch : List Manifest} (h : ∀ m ∈ batch, AnswersAs f R target m)
    {s : σ} {t : τ} (hst : R s t) :
    let c := populate target s batch
    let d := populate target t batch
    d.result = c.result.map (Report.mapStored f) ∧
      Step.documents d.steps = (Step.documents c.steps).map f ∧ R c.store d.store := by
  obtain ⟨hstored, hfailure, hlast⟩ := course_simulates batch.length h 0 hst
  refine ⟨?_, ?_, hlast⟩
  · simp only [populate, hstored, hfailure, List.length_map]
    cases (course target batch.length 0 batch s).failure with
    | none => rfl
    | some e => rfl
  · exact (documents_course _ _ _ _).trans
      (hstored.trans (congrArg (List.map f) (documents_course _ _ _ _).symm))

end

end Populate

end MooseHerd
