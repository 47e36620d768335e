import MooseHerd.Proofs.Run.DryRun

/-! # Runs with stores that reply alike

A run knows its store by the replies. If two stores reply alike to every document, both runs have
the same result and the same steps; what relates the stores at the start relates them at the end. In
particular, what every request to a store keeps is kept by the whole run. -/

namespace MooseHerd

open MooseHerd.Random

section

variable {σ τ : Type} [ObjectStore σ] [ObjectStore τ]

/-- Stores in related states reply alike to a document and are in related states again. -/
def RepliesAlike (R : σ → τ → Prop) (target : Target) : Prop :=
  ∀ {s : σ} {t : τ} (doc : Json), R s t →
    (ObjectStore.create t target doc).1 = (ObjectStore.create s target doc).1 ∧
    R (ObjectStore.create s target doc).2 (ObjectStore.create t target doc).2

/-- Both runs have the same result and the same steps. -/
structure Run.IsAlike (R : σ → τ → Prop) (run : Run σ) (run' : Run τ) : Prop where
  result : run'.result = run.result
  steps : run'.steps = run.steps
  store : R run.store run'.store

variable {R : σ → τ → Prop} {target : Target}

theorem Populate.course_alike (h : RepliesAlike R target) (total : Nat) (batch : List Manifest)
    (created : Nat) {s : σ} {t : τ} (hst : R s t) :
    let c := course target total created batch s
    let d := course target total created batch t
    (d.stored = c.stored ∧ d.failure = c.failure) ∧ d.steps = c.steps ∧ R c.store d.store := by
  induction batch generalizing created s t with
  | nil => exact ⟨⟨rfl, rfl⟩, rfl, hst⟩
  | cons m rest ih =>
    obtain ⟨hreply, hafter⟩ := h m.document hst
    rcases hs : ObjectStore.create s target m.document with ⟨⟨result, events⟩, s'⟩
    rcases ht : ObjectStore.create t target m.document with ⟨reply, t'⟩
    rw [hs, ht] at hreply hafter
    dsimp only at hreply hafter
    subst hreply
    cases result with
    | error e =>
      rw [course_cons_error hs, course_cons_error ht]
      exact ⟨⟨rfl, rfl⟩, rfl, hafter⟩
    | ok doc =>
      obtain ⟨⟨hstored, hfailure⟩, hsteps, hlast⟩ := ih (created + 1) hafter
      rw [course_cons_ok hs, course_cons_ok ht]
      dsimp only
      rw [hstored, hsteps]
      exact ⟨⟨rfl, hfailure⟩, rfl, hlast⟩

namespace Run

theorem handOver_alike (h : RepliesAlike R target) (batch : List Manifest) {s : σ} {t : τ}
    (hst : R s t) : IsAlike R (handOver target s batch) (handOver target t batch) := by
  obtain ⟨⟨hstored, hfailure⟩, hsteps, hlast⟩ :=
    Populate.course_alike h batch.length batch 0 hst
  simp only [handOver, populate, hstored, hfailure, hsteps]
  cases (Populate.course target batch.length 0 batch s).failure with
  | none => exact ⟨rfl, rfl, hlast⟩
  | some e => exact ⟨rfl, rfl, hlast⟩

/-- **A run does not tell stores apart that reply alike.** -/
theorem withStore_alike {settings : Settings} (h : RepliesAlike R settings.target)
    (provided : ChaChaStream) (count : Nat) {s : σ} {t : τ} (hst : R s t) :
    IsAlike R (withStore settings provided s count) (withStore settings provided t count) := by
  cases hplan : settings.herdPlan with
  | error e =>
    simp only [withStore, hplan]
    exact ⟨rfl, rfl, hst⟩
  | ok plan =>
    cases hherd : herd plan provided count with
    | error e =>
      simp only [withStore, hplan, Traits.check_eq_ok, hherd]
      exact ⟨rfl, rfl, hst⟩
    | ok made =>
      obtain ⟨hresult, hsteps, hlast⟩ := handOver_alike h (made.manifests plan) hst
      simp only [withStore, hplan, Traits.check_eq_ok, hherd, hsteps]
      exact ⟨hresult, rfl, hlast⟩

end Run

end

/-- **What every request keeps is kept by the run.** -/
theorem Run.withStore_keeps {σ : Type} [ObjectStore σ] {settings : Settings} {P : σ → Prop}
    (h : ∀ s doc, P s → P (ObjectStore.create s settings.target doc).2) (provided : ChaChaStream)
    (count : Nat) {s : σ} (hs : P s) : P (withStore settings provided s count).store := by
  -- a store with the property replies like itself
  have hself : RepliesAlike (fun s t => s = t ∧ P s) settings.target := by
    rintro s _ doc ⟨rfl, hs⟩
    exact ⟨rfl, rfl, h s doc hs⟩
  exact (withStore_alike hself provided count ⟨rfl, hs⟩).store.2

end MooseHerd
