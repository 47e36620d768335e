import MooseHerd.Manifest
import MooseHerd.Proofs.Json.Members
import MooseHerd.Proofs.Store.Keys

/-! # Requests to a store in memory

A request is refused if its document has no name or if there is a document under its key, and then
the store stays as it is. Every other request adds one document under its key, stamped with the next
number, and touches nothing else. -/

namespace MooseHerd

/-! ## Names of documents -/

theorem documentName?_eq_some_iff {doc : Json} {name : String} :
    documentName? doc = some name ↔ ∃ top metadata, doc = .object top ∧
      top.lookup "metadata" = some (.object metadata) ∧
      metadata.lookup "name" = some (.string name) := by
  rw [documentName?, Option.bind_eq_some_iff]
  constructor
  · rintro ⟨value, hvalue, hname⟩
    obtain ⟨inner, hinner, hmember⟩ := Option.bind_eq_some_iff.mp hvalue
    obtain ⟨top, rfl, htop⟩ := Json.member?_eq_some_iff.mp hinner
    obtain ⟨metadata, rfl, hmetadata⟩ := Json.member?_eq_some_iff.mp hmember
    rw [Json.string?_eq_some_iff.mp hname] at hmetadata
    exact ⟨top, metadata, rfl, htop, hmetadata⟩
  · rintro ⟨top, metadata, rfl, htop, hmetadata⟩
    exact ⟨.string name, Option.bind_eq_some_iff.mpr ⟨.object metadata, htop, hmetadata⟩, rfl⟩

/-- The document of a manifest carries its name. -/
theorem documentName?_document (m : Manifest) : documentName? m.document = some m.name := by
  simp [documentName?, Manifest.document, Json.ofMembers, Json.member?, Json.lookup_insertMember,
    Json.string?]

/-- The resource version that a document carries. -/
def resourceVersion? (doc : Json) : Option String :=
  ((doc.member? "metadata").bind (·.member? "resourceVersion")).bind Json.string?

/-! ## Requests -/

/-- A document that is to be created in a collection. -/
structure Request where
  target : Target
  document : Json

/-- Documents that are to be created in one collection. -/
def Target.requests (t : Target) (docs : List Json) : List Request := docs.map fun doc => ⟨t, doc⟩

theorem Target.target_of_mem_requests {t : Target} {docs : List Json} {r : Request}
    (h : r ∈ t.requests docs) : r.target = t := by
  obtain ⟨doc, -, rfl⟩ := List.mem_map.mp h
  rfl

namespace Request

/-- The name of the document, empty if it has none. -/
def name (r : Request) : String := (documentName? r.document).getD ""

def key (r : Request) : String := MemoryStore.key r.target r.name

/-- Why the request is refused if it is. -/
def refusal (r : Request) : Error :=
  if r.name = "" then .validation "metadata.name 不能为空"
  else .alreadyExists r.target.resourceType r.name

theorem documentName?_eq_some {r : Request} (h : r.name ≠ "") :
    documentName? r.document = some r.name := by
  unfold name at h ⊢
  cases hname : documentName? r.document with
  | none =>
    rw [hname] at h
    exact absurd rfl h
  | some name => rfl

theorem name_eq {r : Request} {name : String} (h : documentName? r.document = some name) :
    r.name = name := by
  rw [Request.name, h, Option.getD_some]

theorem refusal_of_name {r : Request} {name : String} (h : documentName? r.document = some name)
    (hne : name ≠ "") : r.refusal = .alreadyExists r.target.resourceType name := by
  rw [refusal, name_eq h, if_neg hne]

theorem name_eq_empty_iff {r : Request} :
    r.name = "" ↔ documentName? r.document = none ∨ documentName? r.document = some "" := by
  unfold name
  cases documentName? r.document with
  | none => simp
  | some name => simp

theorem named_iff {r : Request} {p : String → Prop} :
    (∃ name, documentName? r.document = some name ∧ name ≠ "" ∧ p name) ↔
      r.name ≠ "" ∧ p r.name := by
  constructor
  · rintro ⟨name, hname, hne, hp⟩
    rw [name_eq hname]
    exact ⟨hne, hp⟩
  · rintro ⟨hne, hp⟩
    exact ⟨r.name, documentName?_eq_some hne, hne, hp⟩

end Request

namespace MemoryStore

def keys (store : MemoryStore) : List String := store.entries.map (·.1)

theorem contains_iff_mem_keys {store : MemoryStore} {target : Target} {name : String} :
    store.contains target name = true ↔ key target name ∈ store.keys :=
  Keys.lookup_isSome_iff_mem

/-- Whether the store refuses a request. -/
def Refuses (store : MemoryStore) (r : Request) : Prop := r.name = "" ∨ r.key ∈ store.keys

/-- The document of a request as the store's document with the given number. -/
def stamped? (store : MemoryStore) (number : Nat) (r : Request) : Option Json :=
  setMetadata? (stampMembers r.target number (store.stamps number)) r.document

/-- The store with a further document. -/
def add (store : MemoryStore) (key : String) (stored : Json) : MemoryStore :=
  { store with
    entries := Json.insertMember key stored store.entries
    created := store.created + 1 }

variable {store : MemoryStore} {r : Request}

/-- The metadata of a document are set if they are an object. -/
theorem setMetadata?_eq_some_iff {members : List (String × Json)} {doc stored : Json} :
    setMetadata? members doc = some stored ↔ ∃ top metadata, doc = .object top ∧
      top.lookup "metadata" = some (.object metadata) ∧
      stored = .object (Json.insertMember "metadata"
        (.object (members.foldl (fun acc (k, v) => Json.insertMember k v acc) metadata)) top) := by
  constructor
  · intro h
    unfold setMetadata? at h
    split at h
    · split at h
      · rename_i top _ metadata htop
        cases h
        exact ⟨top, metadata, rfl, htop, rfl⟩
      · cases h
    · cases h
  · rintro ⟨top, metadata, rfl, htop, rfl⟩
    rw [setMetadata?, htop]

/-- What a store sets in the metadata of a document leaves its name alone. -/
theorem exists_stamped (store : MemoryStore) (number : Nat) (h : r.name ≠ "") :
    ∃ stored, store.stamped? number r = some stored ∧ documentName? stored = some r.name := by
  obtain ⟨top, metadata, hdocument, htop, hmetadata⟩ :=
    documentName?_eq_some_iff.mp (Request.documentName?_eq_some h)
  refine ⟨_, setMetadata?_eq_some_iff.mpr ⟨top, metadata, hdocument, htop, rfl⟩, ?_⟩
  refine documentName?_eq_some_iff.mpr ⟨_, _, rfl, Json.lookup_insertMember_self _ _ _, ?_⟩
  rw [Json.lookup_foldl_insertMember metadata (by simp [stampMembers]), hmetadata]

/-- A stamped document carries its number as text. -/
theorem resourceVersion?_of_stamped {number : Nat} {stored : Json}
    (h : store.stamped? number r = some stored) :
    resourceVersion? stored = some (toString number) := by
  obtain ⟨top, metadata, -, -, rfl⟩ := setMetadata?_eq_some_iff.mp h
  simp [resourceVersion?, Json.member?, Json.lookup_insertMember, stampMembers, Json.string?]

theorem create_of_refuses (h : store.Refuses r) :
    store.create r.target r.document = (.error r.refusal, store) := by
  by_cases hname : r.name = ""
  · have hnone : (documentName? r.document).filter (· ≠ "") = none := by
      unfold Request.name at hname
      cases hdoc : documentName? r.document with
      | none => rfl
      | some name =>
        rw [hdoc, Option.getD_some] at hname
        rw [hname]
        rfl
    rw [create, hnone, Request.refusal, if_pos hname]
  · have htaken : store.contains r.target r.name = true :=
      contains_iff_mem_keys.mpr (h.resolve_left hname)
    rw [create, Request.documentName?_eq_some hname, Option.filter_some,
      if_pos (decide_eq_true hname), Request.refusal, if_neg hname]
    simp only [htaken, if_true]

/-- A request that is not refused adds its document and nothing else. -/
theorem create_of_not_refuses (h : ¬ store.Refuses r) :
    ∃ stored, store.stamped? (store.created + 1) r = some stored ∧
      documentName? stored = some r.name ∧
      store.create r.target r.document = (.ok stored, store.add r.key stored) := by
  obtain ⟨hname, hkey⟩ := not_or.mp h
  have hfree : store.contains r.target r.name = false :=
    Bool.eq_false_iff.mpr (mt contains_iff_mem_keys.mp hkey)
  obtain ⟨stored, hstored, hstoredName⟩ := exists_stamped store (store.created + 1) hname
  refine ⟨stored, hstored, hstoredName, ?_⟩
  unfold stamped? at hstored
  rw [create, Request.documentName?_eq_some hname, Option.filter_some,
    if_pos (decide_eq_true hname)]
  simp only [hfree, hstored]
  rfl

/-! ## How a request ends -/

theorem create_error_iff {e : Error} :
    (store.create r.target r.document).1 = .error e ↔ store.Refuses r ∧ e = r.refusal := by
  by_cases h : store.Refuses r
  · rw [create_of_refuses h]
    simp [h, eq_comm]
  · obtain ⟨stored, -, -, hcreate⟩ := create_of_not_refuses h
    simp [hcreate, h]

theorem create_ok_iff :
    (∃ stored, (store.create r.target r.document).1 = .ok stored) ↔ ¬ store.Refuses r := by
  by_cases h : store.Refuses r
  · rw [create_of_refuses h]
    simp [h]
  · obtain ⟨stored, -, -, hcreate⟩ := create_of_not_refuses h
    simp [hcreate, h]

theorem create_validation_iff :
    (∃ message, (store.create r.target r.document).1 = .error (.validation message)) ↔
      r.name = "" := by
  simp only [create_error_iff, Request.refusal, Refuses]
  by_cases h : r.name = "" <;> simp [h]

theorem create_alreadyExists_iff :
    (∃ kind name, (store.create r.target r.document).1 = .error (.alreadyExists kind name)) ↔
      r.name ≠ "" ∧ store.contains r.target r.name = true := by
  simp only [create_error_iff, Request.refusal, Refuses, contains_iff_mem_keys]
  by_cases h : r.name = "" <;> simp [h, Request.key]

/-- A document comes back with the number after those that were given out. -/
theorem resourceVersion?_of_create {stored : Json}
    (h : (store.create r.target r.document).1 = .ok stored) :
    resourceVersion? stored = some (toString (store.created + 1)) := by
  obtain ⟨stored', hstamped, -, hcreate⟩ := create_of_not_refuses (create_ok_iff.mp ⟨stored, h⟩)
  rw [hcreate] at h
  cases h
  exact resourceVersion?_of_stamped hstamped

/-! ## The store with a further document -/

@[simp]
theorem created_add (key : String) (stored : Json) :
    (store.add key stored).created = store.created + 1 := rfl

@[simp]
theorem keys_add (key : String) (stored : Json) :
    (store.add key stored).keys = Keys.insert key store.keys :=
  Json.map_fst_insertMember key stored store.entries

theorem lookup_add (key k : String) (stored : Json) :
    (store.add key stored).entries.lookup k =
      if k = key then some stored else store.entries.lookup k :=
  Json.lookup_insertMember key k stored store.entries

theorem entries_add_perm {key : String} (stored : Json) (h : key ∉ store.keys) :
    (store.add key stored).entries.Perm ((key, stored) :: store.entries) :=
  Json.insertMember_perm stored h

end MemoryStore

end MooseHerd
