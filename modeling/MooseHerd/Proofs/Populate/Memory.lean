import Mathlib.Order.Bounds.Basic
import MooseHerd.Proofs.Populate.Course
import MooseHerd.Proofs.Store.Requests

/-! # Batches in a store in memory

A batch takes the names of its manifests one after the other. It stops at the first manifest that
has no name or one that is taken, before the batch or within it, and until then the store grows by
one document for each manifest. -/

namespace MooseHerd.Populate

variable (target : Target)

/-! ## A batch as requests -/

/-- The requests that hand over a batch. -/
def requests (batch : List Manifest) : List Request := target.requests (batch.map (·.document))

theorem storeAfter_eq_after (batch : List Manifest) (store : MemoryStore) :
    storeAfter target batch store = store.after (requests target batch) := by
  rw [MemoryStore.after, requests, Target.requests, List.foldl_map, List.foldl_map]
  rfl

theorem length_requests (batch : List Manifest) :
    (requests target batch).length = batch.length := by
  rw [requests, Target.requests, List.length_map, List.length_map]

theorem name_request (m : Manifest) : Request.name ⟨target, m.document⟩ = m.name :=
  Request.name_eq (documentName?_document m)

theorem map_key_requests (batch : List Manifest) :
    (requests target batch).map (·.key) = batch.map (MemoryStore.key target ·.name) := by
  rw [requests, Target.requests, List.map_map, List.map_map]
  apply List.map_congr_left
  intro m _
  exact congrArg (MemoryStore.key target) (name_request target m)

/-- If all documents come back, all requests succeed. -/
theorem made_of_answers : ∀ {batch : List Manifest} {docs : List Json} {store : MemoryStore},
    answers target batch store = docs.map .ok →
    store.made (requests target batch) = (requests target batch).zip docs
  | [], _, _, _ => rfl
  | m :: rest, [], store, h => by cases h
  | m :: rest, doc :: docs, store, h => by
    rcases hcreate : store.create target m.document with ⟨answer, next⟩
    have hanswer : ObjectStore.create store target m.document = ({ result := answer }, next) := by
      simp only [ObjectStore.create, hcreate]
    rw [answers_cons hanswer] at h
    obtain ⟨hdoc, hrest⟩ := List.cons.inj h
    subst hdoc
    have hmade := MemoryStore.made_cons_of_create (r := ⟨target, m.document⟩) hcreate
      (requests target rest)
    rw [made_of_answers hrest] at hmade
    exact hmade

/-! ## What a batch leaves in the store -/

/-- The documents of a batch are in a store, beside those that were there before. -/
structure Delivered (store : MemoryStore) (batch : List Manifest) (docs : List Json)
    (last : MemoryStore) : Prop where
  length_eq : docs.length = batch.length
  /-- The documents carry the names of the manifests and the numbers that follow the store's. -/
  stamped : ∀ i m doc, batch[i]? = some m → docs[i]? = some doc →
    store.stamped? (store.created + i + 1) ⟨target, m.document⟩ = some doc ∧
    documentName? doc = some m.name ∧ last.get? target m.name = some doc
  entries : last.entries.Perm
    ((batch.map (MemoryStore.key target ·.name)).zip docs ++ store.entries)
  count_eq : last.count = store.count + docs.length
  created_eq : last.created = store.created + docs.length
  kept : ∀ t name doc, store.get? t name = some doc → last.get? t name = some doc
  contains_iff : ∀ name, last.contains target name = true ↔
    store.contains target name = true ∨ ∃ m ∈ batch, m.name = name

theorem delivered_of_answers {batch : List Manifest} {docs : List Json} {store : MemoryStore}
    (h : answers target batch store = docs.map .ok) :
    Delivered target store batch docs (storeAfter target batch store) := by
  have hlength : docs.length = batch.length := by
    rw [← length_answers target batch store, h, List.length_map]
  have hle : (requests target batch).length ≤ docs.length := by
    rw [length_requests, hlength]
  have hrun := store.run_after (requests target batch)
  rw [made_of_answers target h, ← storeAfter_eq_after] at hrun
  have hentries := hrun.entries_perm
  rw [← List.zip_map_left, map_key_requests] at hentries
  have hmade : ((requests target batch).zip docs).length = docs.length := by
    rw [List.length_zip, length_requests, hlength, Nat.min_self]
  refine ⟨hlength, ?_, hentries, ?_, ?_, ?_, ?_⟩
  · intro i m doc hm hdoc
    have hi : ((requests target batch).zip docs)[i]? = some (⟨target, m.document⟩, doc) := by
      rw [List.getElem?_zip_eq_some, requests, Target.requests, List.getElem?_map,
        List.getElem?_map, hm]
      exact ⟨rfl, hdoc⟩
    have hmem := List.mem_of_getElem? hi
    obtain ⟨-, -, hname⟩ := hrun.named_of_mem hmem
    have hfound := hrun.lookup_of_mem hmem
    rw [Request.key, name_request] at hfound
    rw [name_request] at hname
    exact ⟨hrun.stamped_of_getElem? hi, hname, hfound⟩
  · rw [hrun.count_eq, hmade]
  · rw [hrun.created_eq, hmade]
  · intro t name doc hdoc
    exact hrun.lookup_of_lookup hdoc
  · intro name
    rw [MemoryStore.contains_iff_mem_keys, MemoryStore.contains_iff_mem_keys,
      hrun.keys_perm.mem_iff, List.mem_append, List.map_fst_zip hle, map_key_requests, List.mem_map,
      or_comm]
    simp only [(MemoryStore.key_strictMono target).injective.eq_iff]

/-! ## Where a batch stops -/

/-- The manifest with an index has no name, or one that is taken when it is its turn. -/
def Blocked (store : MemoryStore) (batch : List Manifest) (i : Nat) : Prop :=
  ∃ m, batch[i]? = some m ∧
    (m.name = "" ∨ store.contains target m.name = true ∨
      ∃ earlier ∈ batch.take i, earlier.name = m.name)

/-- The store refuses a manifest after others if its name is empty, taken or among theirs. -/
theorem refuses_iff {store : MemoryStore} {before : List Manifest} {m : Manifest} :
    (store.after (requests target before)).Refuses ⟨target, m.document⟩ ↔
      m.name = "" ∨ store.contains target m.name = true ∨
        ∃ earlier ∈ before, earlier.name = m.name := by
  rw [requests, MemoryStore.refuses_after_iff (documentName?_document m)]
  simp only [List.mem_map, exists_exists_and_eq_and, documentName?_document, Option.some.injEq]

variable {target} {store : MemoryStore} {batch : List Manifest} {i : Nat}

/-- The error that ends a batch at a manifest. -/
theorem answer_of_blocked (h : Blocked target store batch i) : ∃ m, batch[i]? = some m ∧
    (answers target batch store)[i]? = some (.error (Request.refusal ⟨target, m.document⟩)) := by
  obtain ⟨m, hm, hblocked⟩ := h
  refine ⟨m, hm, ?_⟩
  have hcreate := MemoryStore.create_of_refuses ((refuses_iff target).mpr hblocked)
  rw [getElem?_answers, hm, storeAfter_eq_after, Option.map_some]
  exact congrArg (fun reply => some reply.1) hcreate

theorem answer_of_not_blocked {m : Manifest} (hm : batch[i]? = some m)
    (h : ¬ Blocked target store batch i) :
    ∃ doc, (answers target batch store)[i]? = some (.ok doc) := by
  have hfree : ¬ (store.after (requests target (batch.take i))).Refuses ⟨target, m.document⟩ := by
    intro hrefuses
    exact h ⟨m, hm, (refuses_iff target).mp hrefuses⟩
  obtain ⟨stored, -, -, hcreate⟩ := MemoryStore.create_of_not_refuses hfree
  refine ⟨stored, ?_⟩
  rw [getElem?_answers, hm, storeAfter_eq_after, Option.map_some]
  exact congrArg (fun reply => some reply.1) hcreate

variable {docs : List Json} {later : List (Except Error Json)} {e : Error}

theorem not_blocked_of_answers (h : answers target batch store = docs.map .ok ++ later)
    (hi : i < docs.length) : ¬ Blocked target store batch i := by
  intro hblocked
  obtain ⟨m, -, hanswer⟩ := answer_of_blocked hblocked
  rw [h, List.getElem?_append_left (by rwa [List.length_map]), List.getElem?_map,
    Option.map_eq_some_iff] at hanswer
  obtain ⟨doc, -, hdoc⟩ := hanswer
  cases hdoc

/-- The first error is that of the first manifest that is blocked. -/
theorem isLeast_blocked_of_answers
    (h : answers target batch store = docs.map .ok ++ .error e :: later) :
    IsLeast {i | Blocked target store batch i} docs.length ∧
      ∃ m, batch[docs.length]? = some m ∧ e = Request.refusal ⟨target, m.document⟩ := by
  have hlast : (answers target batch store)[docs.length]? = some (.error e) := by
    rw [h]
    simp
  have hlength : docs.length < batch.length := by
    rw [← length_answers target batch store]
    exact (List.getElem?_eq_some_iff.mp hlast).1
  have hblocked : Blocked target store batch docs.length := by
    by_contra hfree
    obtain ⟨doc, hdoc⟩ := answer_of_not_blocked (List.getElem?_eq_getElem hlength) hfree
    rw [hlast] at hdoc
    cases hdoc
  refine ⟨⟨hblocked, ?_⟩, ?_⟩
  · intro i hi
    exact Nat.le_of_not_lt fun hlt => not_blocked_of_answers h hlt hi
  · obtain ⟨m, hm, hanswer⟩ := answer_of_blocked hblocked
    rw [hlast] at hanswer
    cases hanswer
    exact ⟨m, hm, rfl⟩

/-- A manifest that is refused leaves the store as it is. -/
theorem storeAfter_take_of_blocked (h : Blocked target store batch i) :
    storeAfter target (batch.take (i + 1)) store = storeAfter target (batch.take i) store := by
  obtain ⟨m, hm, hblocked⟩ := h
  have hcreate := MemoryStore.create_of_refuses ((refuses_iff target).mpr hblocked)
  rw [← storeAfter_eq_after] at hcreate
  rw [List.take_add_one, hm, storeAfter, List.foldl_append]
  exact congrArg Prod.snd hcreate

/-- New names that differ from each other stay new until it is their turn. -/
theorem not_blocked_of_fresh (hdistinct : (batch.map (·.name)).Nodup)
    (hnames : ∀ m ∈ batch, m.name ≠ "")
    (hnew : ∀ m ∈ batch, store.contains target m.name = false) :
    ¬ Blocked target store batch i := by
  rintro ⟨m, hm, hwhy⟩
  have hmem := List.mem_of_getElem? hm
  rcases hwhy with hempty | htaken | ⟨earlier, hearlier, hsame⟩
  · exact hnames m hmem hempty
  · rw [hnew m hmem] at htaken
    cases htaken
  · obtain ⟨hi, rfl⟩ := List.getElem?_eq_some_iff.mp hm
    have hdisjoint := List.disjoint_take_drop hdistinct (Nat.le_refl i)
    rw [← List.map_take, ← List.map_drop, List.drop_eq_getElem_cons hi] at hdisjoint
    exact hdisjoint (List.mem_map.mpr ⟨earlier, hearlier, hsame⟩) List.mem_cons_self

/-- A batch whose names are new and differ from each other is created as a whole. -/
theorem answers_of_fresh (target : Target) (batch : List Manifest) (store : MemoryStore)
    (hdistinct : (batch.map (·.name)).Nodup) (hnames : ∀ m ∈ batch, m.name ≠ "")
    (hnew : ∀ m ∈ batch, store.contains target m.name = false) :
    ∃ docs : List Json, answers target batch store = docs.map .ok ∧
      docs.map documentName? = batch.map (some ·.name) := by
  rcases course_cases target batch.length batch 0 store with
    ⟨hanswers, -⟩ | ⟨m, e, later, -, hanswers, -⟩
  · refine ⟨_, hanswers, ?_⟩
    have hdelivered := delivered_of_answers target hanswers
    apply List.ext_getElem
    · rw [List.length_map, List.length_map, hdelivered.length_eq]
    · intro i hdoc hm
      rw [List.length_map] at hdoc hm
      rw [List.getElem_map, List.getElem_map]
      exact (hdelivered.stamped i _ _ (List.getElem?_eq_getElem hm)
        (List.getElem?_eq_getElem hdoc)).2.1
  · exact absurd (isLeast_blocked_of_answers hanswers).1.1
      (not_blocked_of_fresh hdistinct hnames hnew)

/-- **A batch stops at its first manifest that is blocked**, and tells why. The store then has the
documents of the manifests before this one, besides those that it had before the batch. -/
theorem populate_stops_at_first_blocked (target : Target) (batch : List Manifest)
    (store : MemoryStore) :
    let outcome := populate target store batch
    ∃ docs : List Json,
      Delivered target store (batch.take docs.length) docs outcome.store ∧
      ((∀ i, ¬ Blocked target store batch i) ∧ docs.length = batch.length ∧
        outcome.result =
          .ok { requested := batch.length, created := batch.length, stored := docs } ∨
      IsLeast {i | Blocked target store batch i} docs.length ∧
        ∃ m, batch[docs.length]? = some m ∧
          outcome.result = .error (.aborted docs.length batch.length m.name
            (if m.name = "" then .validation "metadata.name 不能为空"
              else .alreadyExists (target.plural ++ "." ++ target.group) m.name))) := by
  intro outcome
  rcases course_cases target batch.length batch 0 store with
    ⟨hanswers, hfailure, -, hstore⟩ | ⟨m, e, later, hm, hanswers, hfailure, -, hstore⟩
  · have hdelivered := delivered_of_answers target hanswers
    have hlength := hdelivered.length_eq
    rw [← hstore] at hdelivered
    refine ⟨(course target batch.length 0 batch store).stored, ?_, .inl ⟨?_, hlength, ?_⟩⟩
    · rw [List.take_of_length_le (Nat.le_of_eq hlength.symm)]
      exact hdelivered
    · rintro i ⟨m, hm, hwhy⟩
      have hi := (List.getElem?_eq_some_iff.mp hm).1
      rw [← hlength] at hi
      exact not_blocked_of_answers (hanswers.trans (List.append_nil _).symm) hi ⟨m, hm, hwhy⟩
    · simp only [outcome, populate, hfailure, hlength]
  · obtain ⟨hleast, m', hm', he⟩ := isLeast_blocked_of_answers hanswers
    cases hm.symm.trans hm'
    -- the part before the manifest is a batch of its own, and all of it comes back
    have hbefore := answers_take target (course target batch.length 0 batch store).stored.length
      batch store
    rw [hanswers, List.take_left' (List.length_map _)] at hbefore
    have hdelivered := delivered_of_answers target hbefore
    rw [← storeAfter_take_of_blocked hleast.1, ← hstore] at hdelivered
    refine ⟨_, hdelivered, .inr ⟨hleast, m, hm, ?_⟩⟩
    simp only [outcome, populate, hfailure, Nat.zero_add, he, Request.refusal, name_request]
    rfl

end MooseHerd.Populate
