import MooseHerd.Http.Offline
import MooseHerd.Proofs.CommandLine.Given
import MooseHerd.Proofs.Herd.Batch
import MooseHerd.Proofs.Populate.Memory
import MooseHerd.Proofs.Settings.Valid
import MooseHerd.Proofs.Store.Collections
import MooseHerd.Run

/-! # Dry runs

A dry run starts from settings that passed their check, from arguments that say how many moose there
are to be, and from a store without documents. Each of these rules out some ways to fail; what is
left is that there are too few names. -/

namespace MooseHerd

open MooseHerd.Random Names

/-- The built-in distributions pass their check. -/
theorem Traits.check_eq_ok : Traits.check = .ok () := rfl

namespace Run

/-! ## Parts of a run -/

section

variable {σ : Type} [ObjectStore σ] {settings : Settings} {plan : HerdPlan}
  {provided : ChaChaStream} {count : Nat} (store : σ)

theorem handOver_of_answers {target : Target} {store : σ} {batch : List Manifest}
    {docs : List Json} (h : Populate.answers target batch store = docs.map .ok) :
    (handOver target store batch).result =
      .ok { requested := batch.length, created := docs.length, stored := docs } ∧
    (handOver target store batch).store = Populate.storeAfter target batch store := by
  obtain ⟨hresult, hstore⟩ := Populate.populate_of_answers target h
  simp only [handOver, hresult, true_and]
  exact hstore

/-- A batch that was made is announced and handed over. -/
theorem withStore_of_herd {h : Herd} (hplan : settings.herdPlan = .ok plan)
    (hherd : herd plan provided count = .ok h) :
    withStore settings provided store count =
      (handOver settings.target store (h.manifests plan)).after
        ((startEvent settings.target count :: h.events plan).map .reported) id := by
  simp only [withStore, hplan, Traits.check_eq_ok, hherd]
  rfl

/-- Without a batch nothing is handed over. -/
theorem withStore_of_error {e : Error} (hplan : settings.herdPlan = .ok plan)
    (hherd : herd plan provided count = .error e) :
    withStore settings provided store count =
      { result := .error ⟨some "生成 Moose 失败", e⟩
        steps := [.reported (startEvent settings.target count)]
        store } := by
  simp only [withStore, hplan, Traits.check_eq_ok, hherd]

end

/-! ## The whole run -/

/-- A dry run that created a batch: all of its documents came back, in the order of their names, and
these are what the store holds that is left. -/
structure HasCreated {ν : Type} (target : Target) (batch : List Manifest) (count : Nat)
    (run : Run (Destination ν)) (report : Report) (store : MemoryStore) : Prop where
  result : run.result = .ok report
  requested : report.requested = count
  created : report.created = count
  stored : report.stored.length = count
  named : report.stored.map documentName? = batch.map (some ·.name)
  ascending : (batch.map (·.name)).Pairwise fun a b => Text.Utf8.encode a < Text.Utf8.encode b
  left : run.store = .memory store
  listed : store.list target = report.stored
  held : store.count = count

/-- Documents are in the order of their names if the manifests are that they were made from. -/
theorem pairwise_precedes {docs : List Json} {batch : List Manifest}
    (hnames : docs.map documentName? = batch.map (some ·.name))
    (h : batch.Pairwise fun a b => Text.Utf8.encode a.name < Text.Utf8.encode b.name) :
    docs.Pairwise MemoryStore.Precedes := by
  have hnamed : (docs.map documentName?).Pairwise fun a b => ∃ name name', a = some name ∧
      b = some name' ∧ Text.Utf8.encode name < Text.Utf8.encode name' := by
    rw [hnames, List.pairwise_map]
    exact h.imp fun hlt => ⟨_, _, rfl, rfl, hlt⟩
  exact (List.pairwise_map (f := documentName?)).mp hnamed

/-- A batch is created as a whole in a store without documents. -/
theorem hasCreated_of_isBatch {ν : Type} [Http.Network ν] {settings : Settings} {plan : HerdPlan}
    {count : Nat} {candidates : List String} {h : Herd} (around : Surroundings ν)
    (hplan : settings.herdPlan = .ok plan) (hherd : herd plan around.words count = .ok h)
    (hbatch : Herd.IsBatch plan count candidates (h.manifests plan)) :
    ∃ report store, HasCreated settings.target (h.manifests plan) count
      (start settings around true count) report store := by
  let batch := h.manifests plan
  let store := Populate.storeAfter settings.target batch (MemoryStore.empty around.stamps)
  obtain ⟨docs, hdocs, hnames⟩ := Populate.answers_of_fresh settings.target batch
    (MemoryStore.empty around.stamps) hbatch.distinct hbatch.nonempty fun _ _ => rfl
  have hlength : docs.length = count := by
    have := congrArg List.length hnames
    rwa [List.length_map, List.length_map, hbatch.length_eq] at this
  have hstart : start settings around true count = (withStore settings around.words
      (MemoryStore.empty around.stamps) count).after [.reported dryRunEvent] .memory := rfl
  have hdelivered := Populate.delivered_of_answers settings.target hdocs
  obtain ⟨hresult, hstore⟩ := handOver_of_answers hdocs
  rw [hstart, withStore_of_herd _ hplan hherd]
  refine ⟨_, store, hresult, hbatch.length_eq, hlength, hlength, hnames,
    List.pairwise_map.mpr hbatch.ascending, congrArg Destination.memory hstore, ?_, ?_⟩
  · -- the store was asked for this batch only, and everything that it was asked for came back
    have hrun := (MemoryStore.empty around.stamps).run_after
      (Populate.requests settings.target batch)
    have hle : docs.length ≤ (Populate.requests settings.target batch).length := by
      rw [Populate.length_requests]
      exact Nat.le_of_eq hdelivered.length_eq
    have hmade := List.map_snd_zip hle
    rw [Populate.made_of_answers _ hdocs, ← Populate.storeAfter_eq_after] at hrun
    refine (MemoryStore.list_eq_of_pairwise hrun ?_).trans hmade
    rw [hmade]
    exact pairwise_precedes hnames hbatch.ascending
  · exact (hdelivered.count_eq.trans (Nat.zero_add _)).trans hlength

/-- **A dry run creates the whole batch unless there are too few names**, whatever the settings say
about the collection and the kind of its resources. -/
theorem dryRun_complete_or_exhausted {ν : Type} [Http.Network ν] {settings : Settings}
    {args : List String} {i : CommandLine.Invocation} (around : Surroundings ν)
    (hsettings : settings.Obtained) (hargs : CommandLine.parse args = .ok i) :
    let run := start (i.override settings) around true i.count
    (∃ plan h report store, (i.override settings).herdPlan = .ok plan ∧
      herd plan around.words i.count = .ok h ∧
      HasCreated (i.override settings).target (h.manifests plan) i.count run report store) ∨
    (∃ plan found, (i.override settings).herdPlan = .ok plan ∧
      found = (lowerForms plan.letter (drawn drawFrom
        (NamePool.english, plan.words around.words) plan.maxAttempts)).card ∧ found < i.count ∧
      run.result = .error ⟨some "生成 Moose 失败",
        .namesExhausted plan.letter i.count found settings.generator.maxNameAttempts⟩ ∧
      run.store = .memory { stamps := around.stamps }) := by
  intro run
  obtain ⟨plan, hplan, -, hlimit⟩ := (hsettings.isValid.override i).exists_herdPlan
  obtain ⟨hcount, -⟩ := CommandLine.range_of_parse hargs
  rcases Herd.make_cases plan hcount (NamePool.english, plan.words around.words) with
    ⟨made, after, hmake, -, hbatch⟩ | ⟨hfew, hmake⟩
  · have hherd : herd plan around.words i.count = .ok made := congrArg Prod.fst hmake
    obtain ⟨report, store, hcreated⟩ := hasCreated_of_isBatch around hplan hherd hbatch
    exact .inl ⟨plan, made, report, store, hplan, hherd, hcreated⟩
  · have hrun : run = _ :=
      congrArg (Run.after [.reported dryRunEvent] Destination.memory)
        (withStore_of_error (MemoryStore.empty around.stamps) hplan (congrArg Prod.fst hmake))
    refine .inr ⟨plan, _, hplan, rfl, hfew, ?_, ?_⟩
    · rw [hrun, hlimit]
      rfl
    · rw [hrun]
      rfl

/-- Surroundings without files and without a connection. -/
def Surroundings.offline : Surroundings Http.Offline where
  files := fun _ => .error .notFound
  network := {}
  stamps := fun number => ⟨toString number, "2024-01-01T00:00:00Z"⟩
  words := .ofSeed 0

/-- Two moose by the built-in settings. -/
theorem dryRun_complete_of_defaults :
    let i : CommandLine.Invocation := { count := 2, seed := some 7 }
    Settings.Obtained {} ∧ CommandLine.parse ["2", "--seed=7"] = .ok i ∧
      ∃ batch report store,
        HasCreated {} batch 2 (start (i.override {}) .offline true 2) report store := by
  have hsettings : Settings.Obtained {} := .layers [] rfl
  have hargs : CommandLine.parse ["2", "--seed=7"] = .ok { count := 2, seed := some 7 } := by
    decide +kernel
  refine ⟨hsettings, hargs, ?_⟩
  rcases dryRun_complete_or_exhausted .offline hsettings hargs with
    ⟨plan, h, report, store, -, -, hcreated⟩ | ⟨plan, found, -, -, -, hexhausted, -⟩
  · exact ⟨_, report, store, hcreated⟩
  · have hcreated : (start (CommandLine.Invocation.override { count := 2, seed := some 7 } {})
        .offline true 2).result.toOption.map (·.created) = some 2 := by
      decide +kernel
    rw [hexhausted] at hcreated
    cases hcreated

end Run

end MooseHerd
