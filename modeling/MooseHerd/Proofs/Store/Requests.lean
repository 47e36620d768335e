import MooseHerd.Proofs.Store.Memory

/-! # Sequences of requests to a store in memory

A request either is refused or adds a document, so a sequence of them is told by those that succeed.
Their documents are what the store holds besides what it held before, they stand under different
keys, and they are numbered in the order in which they came. -/

namespace MooseHerd

namespace MemoryStore

/-- The store after requests, one after the other. -/
def after (store : MemoryStore) (requests : List Request) : MemoryStore :=
  requests.foldl (fun store r => (store.create r.target r.document).2) store

/-- The requests that succeed, in order, with the documents that come back. -/
def made : MemoryStore → List Request → List (Request × Json)
  | _, [] => []
  | store, r :: rest =>
    match store.create r.target r.document with
    | (.ok stored, next) => (r, stored) :: made next rest
    | (.error _, next) => made next rest

/-- A store without documents. -/
abbrev empty (stamps : Nat → Stamp) : MemoryStore := { stamps }

/-- What requests do to a store: some are refused, the others add a document each. -/
inductive Run : MemoryStore → List Request → List (Request × Json) → MemoryStore → Prop
  | nil (store : MemoryStore) : Run store [] [] store
  | refused {store last : MemoryStore} {r : Request} {rest : List Request}
      {made : List (Request × Json)} (h : store.Refuses r) (hrest : Run store rest made last) :
      Run store (r :: rest) made last
  | added {store last : MemoryStore} {r : Request} {rest : List Request}
      {made : List (Request × Json)} {stored : Json} (h : ¬ store.Refuses r)
      (hstored : store.stamped? (store.created + 1) r = some stored)
      (hname : documentName? stored = some r.name)
      (hrest : Run (store.add r.key stored) rest made last) :
      Run store (r :: rest) ((r, stored) :: made) last

theorem run_after (store : MemoryStore) (requests : List Request) :
    Run store requests (store.made requests) (store.after requests) := by
  induction requests generalizing store with
  | nil => exact .nil store
  | cons r rest ih =>
    by_cases h : store.Refuses r
    · have hcreate := create_of_refuses h
      simp only [made, after, List.foldl_cons, hcreate]
      exact .refused h (ih store)
    · obtain ⟨stored, hstored, hname, hcreate⟩ := create_of_not_refuses h
      simp only [made, after, List.foldl_cons, hcreate]
      exact .added h hstored hname (ih (store.add r.key stored))

theorem made_cons_of_create {store next : MemoryStore} {r : Request} {stored : Json}
    (h : store.create r.target r.document = (.ok stored, next)) (rest : List Request) :
    store.made (r :: rest) = (r, stored) :: next.made rest := by
  simp only [made, h]

namespace Run

variable {store last : MemoryStore} {requests : List Request} {made : List (Request × Json)}

/-! ## What the store holds -/

theorem entries_perm (h : Run store requests made last) :
    last.entries.Perm (made.map (Prod.map Request.key id) ++ store.entries) := by
  induction h with
  | nil store => exact .refl _
  | refused _ _ ih => exact ih
  | @added _ _ _ _ _ stored h _ _ _ ih =>
    have hnew := entries_add_perm stored (not_or.mp h).2
    exact (ih.trans (hnew.append_left _)).trans List.perm_middle

theorem keys_perm (h : Run store requests made last) :
    last.keys.Perm ((made.map Prod.fst).map Request.key ++ store.keys) := by
  have hkeys := h.entries_perm.map Prod.fst
  rw [List.map_append, List.map_map] at hkeys
  rw [List.map_map]
  exact hkeys

theorem ascending (h : Run store requests made last) (hstore : Keys.Ascending store.keys) :
    Keys.Ascending last.keys := by
  induction h with
  | nil store => exact hstore
  | refused _ _ ih => exact ih hstore
  | added _ _ _ _ ih =>
    apply ih
    rw [keys_add]
    exact hstore.insert _

theorem created_eq (h : Run store requests made last) :
    last.created = store.created + made.length := by
  induction h with
  | nil store => rfl
  | refused _ _ ih => exact ih
  | added _ _ _ _ ih =>
    rw [ih, created_add, List.length_cons]
    omega

theorem count_eq (h : Run store requests made last) : last.count = store.count + made.length := by
  have hlength := h.entries_perm.length_eq
  rw [List.length_append, List.length_map, Nat.add_comm] at hlength
  exact hlength

/-- A document stays as it is. -/
theorem lookup_of_lookup (h : Run store requests made last) {k : String} {doc : Json}
    (hdoc : store.entries.lookup k = some doc) : last.entries.lookup k = some doc := by
  induction h with
  | nil store => exact hdoc
  | refused _ _ ih => exact ih hdoc
  | @added store _ r _ _ stored h _ _ _ ih =>
    apply ih
    -- a document is added under a key that was free, so it hides none
    have hne : k ≠ r.key := by
      intro heq
      have hmem : k ∈ store.keys := Keys.lookup_isSome_iff_mem.mp (by rw [hdoc]; rfl)
      exact (not_or.mp h).2 (heq ▸ hmem)
    rw [lookup_add, if_neg hne, hdoc]

/-- A document that came back is found under its key. -/
theorem lookup_of_mem (h : Run store requests made last) {r : Request} {stored : Json}
    (hmem : (r, stored) ∈ made) : last.entries.lookup r.key = some stored := by
  induction h with
  | nil store => cases hmem
  | refused _ _ ih => exact ih hmem
  | @added store _ r' _ _ stored' _ _ _ hrest ih =>
    rcases List.mem_cons.mp hmem with heq | hmem
    · cases heq
      apply hrest.lookup_of_lookup
      rw [lookup_add, if_pos rfl]
    · exact ih hmem

/-- Whether or not a request with a name succeeds, its key is taken afterwards. -/
theorem mem_keys_iff (h : Run store requests made last) {k : String} :
    k ∈ last.keys ↔ k ∈ store.keys ∨ ∃ r ∈ requests, r.name ≠ "" ∧ r.key = k := by
  induction h with
  | nil store => simp
  | @refused store _ r _ _ h _ ih =>
    -- a request that has a name and is refused has its key in the store already
    rw [ih, List.exists_mem_cons_iff]
    constructor
    · rintro (hk | hk)
      · exact .inl hk
      · exact .inr (.inr hk)
    · rintro (hk | ⟨hname, rfl⟩ | hk)
      · exact .inl hk
      · exact .inl (h.resolve_left hname)
      · exact .inr hk
  | @added store _ r _ _ _ h _ _ _ ih =>
    rw [ih, keys_add, Keys.mem_insert, List.exists_mem_cons_iff]
    constructor
    · rintro ((rfl | hk) | hk)
      · exact .inr (.inl ⟨(not_or.mp h).1, rfl⟩)
      · exact .inl hk
      · exact .inr (.inr hk)
    · rintro (hk | ⟨-, rfl⟩ | hk)
      · exact .inl (.inr hk)
      · exact .inl (.inl rfl)
      · exact .inr hk

/-! ## What came back -/

theorem named_of_mem (h : Run store requests made last) {r : Request} {stored : Json}
    (hmem : (r, stored) ∈ made) :
    r ∈ requests ∧ r.name ≠ "" ∧ documentName? stored = some r.name := by
  induction h with
  | nil store => cases hmem
  | refused _ _ ih =>
    obtain ⟨hr, hname⟩ := ih hmem
    exact ⟨List.mem_cons_of_mem _ hr, hname⟩
  | added h _ hname _ ih =>
    rcases List.mem_cons.mp hmem with heq | hmem
    · cases heq
      exact ⟨List.mem_cons_self, (not_or.mp h).1, hname⟩
    · obtain ⟨hr, hname⟩ := ih hmem
      exact ⟨List.mem_cons_of_mem _ hr, hname⟩

/-- The documents are stamped with the numbers that follow the store's. -/
theorem stamped_of_getElem? (h : Run store requests made last) {i : Nat} {r : Request}
    {stored : Json} (hi : made[i]? = some (r, stored)) :
    store.stamped? (store.created + i + 1) r = some stored := by
  induction h generalizing i with
  | nil store => cases hi
  | refused _ _ ih => exact ih hi
  | @added store _ _ _ _ _ _ hstored _ _ ih =>
    cases i with
    | zero =>
      cases hi
      exact hstored
    | succ i =>
      have hshift : store.created + (i + 1) + 1 = store.created + 1 + i + 1 := by omega
      rw [hshift]
      exact ih hi

theorem map_resourceVersion? (h : Run store requests made last) :
    made.map (resourceVersion? ·.2) =
      (List.range' (store.created + 1) made.length).map fun number => some (toString number) := by
  induction h with
  | nil store => rfl
  | refused _ _ ih => exact ih
  | added _ hstored _ _ ih =>
    rw [List.map_cons, List.length_cons, List.range'_succ, List.map_cons, ih,
      resourceVersion?_of_stamped hstored, created_add]

end Run

/-- After others of one collection, a document is refused if its name is empty, was taken before or
is the name of one of them. -/
theorem refuses_after_iff {store : MemoryStore} {t : Target} {docs : List Json} {doc : Json}
    {name : String} (hname : documentName? doc = some name) :
    (store.after (t.requests docs)).Refuses ⟨t, doc⟩ ↔
      name = "" ∨ store.contains t name = true ∨
        ∃ earlier ∈ docs, documentName? earlier = some name := by
  have hr : Request.name ⟨t, doc⟩ = name := Request.name_eq hname
  rw [Refuses, Request.key, hr, (store.run_after (t.requests docs)).mem_keys_iff,
    contains_iff_mem_keys]
  by_cases hempty : name = ""
  · simp [hempty]
  · refine or_congr_right (or_congr_right ?_)
    simp only [Target.requests, List.mem_map, exists_exists_and_eq_and, Request.key,
      (key_strictMono t).injective.eq_iff]
    constructor
    · rintro ⟨earlier, hmem, hne, heq⟩
      exact ⟨earlier, hmem, heq ▸ Request.documentName?_eq_some hne⟩
    · rintro ⟨earlier, hmem, hearlier⟩
      have hsame : Request.name ⟨t, earlier⟩ = name := Request.name_eq hearlier
      exact ⟨earlier, hmem, hsame ▸ hempty, hsame⟩

/-! ## From a store without documents -/

/-- **What a request comes to after any others.** It fails if its document has no name or if its key
is taken, and then the store stays as it is; otherwise it succeeds with the next number. The store
counts the requests that succeeded, their documents have the numbers from one on, and each of them
is found as it came back, whatever is requested later. -/
theorem create_after_requests (stamps : Nat → Stamp) (requests : List Request) (r : Request) :
    let store := (empty stamps).after requests
    let made := (empty stamps).made requests
    let reply := store.create r.target r.document
    ((∃ message, reply.1 = .error (.validation message)) ↔
      documentName? r.document = none ∨ documentName? r.document = some "") ∧
    ((∃ kind name, reply.1 = .error (.alreadyExists kind name)) ↔
      ∃ name, documentName? r.document = some name ∧ name ≠ "" ∧
        store.contains r.target name = true) ∧
    ((∃ stored, reply.1 = .ok stored) ↔
      ∃ name, documentName? r.document = some name ∧ name ≠ "" ∧
        store.contains r.target name = false) ∧
    (∀ e, reply.1 = .error e → e = r.refusal ∧ reply.2 = store) ∧
    (∀ stored, reply.1 = .ok stored →
      resourceVersion? stored = some (toString (made.length + 1))) ∧
    made.map (resourceVersion? ·.2) =
      (List.range' 1 made.length).map (fun number => some (toString number)) ∧
    store.created = made.length ∧ store.count = made.length ∧
    (∀ c ∈ made, store.get? c.1.target c.1.name = some c.2) ∧
    ∀ later t name doc, store.get? t name = some doc →
      (store.after later).get? t name = some doc := by
  intro store made reply
  have hrun := (empty stamps).run_after requests
  have hcreated : store.created = made.length := hrun.created_eq.trans (Nat.zero_add _)
  refine ⟨?_, ?_, ?_, ?_, ?_, hrun.map_resourceVersion?, hcreated, ?_, ?_, ?_⟩
  · rw [← Request.name_eq_empty_iff]
    exact create_validation_iff
  · rw [Request.named_iff]
    exact create_alreadyExists_iff
  · rw [Request.named_iff, ← Bool.not_eq_true, contains_iff_mem_keys, ← not_or]
    exact create_ok_iff
  · intro e he
    obtain ⟨hrefuses, rfl⟩ := create_error_iff.mp he
    exact ⟨rfl, congrArg Prod.snd (create_of_refuses hrefuses)⟩
  · intro stored hstored
    rw [resourceVersion?_of_create hstored, hcreated]
  · exact hrun.count_eq.trans (Nat.zero_add _)
  · intro c hc
    exact hrun.lookup_of_mem hc
  · intro later t name doc hdoc
    exact (store.run_after later).lookup_of_lookup hdoc

end MemoryStore

end MooseHerd
