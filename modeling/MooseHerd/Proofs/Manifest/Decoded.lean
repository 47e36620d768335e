import MooseHerd.Proofs.Manifest.Stamped

/-! # What a document gives back

A document that was made of a manifest gives it back, and so does every document that has its
members among others: one with members that a manifest does not know, and one that a store has
stamped. Numbers come back as they are, since those of a document are finite doubles. -/

namespace MooseHerd

/-- Every number of a document is a finite double. -/
theorem Json.Number.isFinite_toFloat {n : Json.Number} (h : n.IsWritable) :
    n.toFloat.isFinite = true := by
  cases n with
  | whole n => exact Json.isFinite_floatOfInt (by have := h.1; omega) h.2
  | real x => exact h

namespace Manifest

/-- The height and the weight are numbers. -/
def HasFiniteSizes (m : Manifest) : Prop :=
  m.traits.height.isFinite = true ∧ m.traits.weight.isFinite = true

/-! ## Documents with the members of a manifest -/

/-- A document has the members that make a manifest, and perhaps others. -/
structure IsIn (m : Manifest) (doc : Json) : Prop where
  apiVersion : doc.member? "apiVersion" = some (.string m.apiVersion)
  kind : doc.member? "kind" = some (.string m.kind)
  metadata : ∃ metadata, doc.member? "metadata" = some metadata ∧
    metadata.member? "name" = some (.string m.name) ∧
    metadata.member? "labels" = some m.labelsDocument
  spec : ∃ spec, doc.member? "spec" = some spec ∧
    spec.member? "height" = some (.number (.real m.traits.height)) ∧
    spec.member? "weight" = some (.number (.real m.traits.weight)) ∧
    spec.member? "antlers" = some (.bool m.traits.antlers)

variable {m : Manifest} {doc : Json}

theorem asRecord?_of_member? {schema : Json.Schema} {name : String} {value : Json}
    (h : doc.member? name = some value) : schema.asRecord? doc = some doc := by
  obtain ⟨members, rfl, -⟩ := Json.member?_eq_some_iff.mp h
  rfl

theorem labelsAt?_of_member? {name : String} (h : doc.member? name = some m.labelsDocument) :
    labelsAt? name doc = some m.labels := by
  simp only [labelsAt?, h, labelsDocument]
  generalize m.labels = labels
  induction labels with
  | nil => rfl
  | cons label labels ih =>
    rw [List.map_cons, List.mapM_cons, ih]
    rfl

theorem textAt?_of_member? {name s : String} (h : doc.member? name = some (.string s)) :
    textAt? name doc = some s := by
  rw [textAt?, h]
  rfl

theorem realAt?_of_member? {name : String} {n : Json.Number}
    (h : doc.member? name = some (.number n)) : realAt? name doc = some n.toFloat := by
  rw [realAt?, h]

theorem flagAt?_of_member? {name : String} {b : Bool} (h : doc.member? name = some (.bool b)) :
    flagAt? name doc = some b := by
  rw [flagAt?, h]

/-- A manifest is made of nine members, whatever else there is. -/
theorem ofDocument?_of_members {metadata spec : Json} {version kind name : String}
    {labels : List (String × String)} {height weight : Json.Number} {antlers : Bool}
    (hversion : doc.member? "apiVersion" = some (.string version))
    (hkind : doc.member? "kind" = some (.string kind))
    (hmetadata : doc.member? "metadata" = some metadata)
    (hname : metadata.member? "name" = some (.string name))
    (hlabels : labelsAt? "labels" metadata = some labels)
    (hspec : doc.member? "spec" = some spec)
    (hheight : spec.member? "height" = some (.number height))
    (hweight : spec.member? "weight" = some (.number weight))
    (hantlers : spec.member? "antlers" = some (.bool antlers)) :
    ofDocument? doc =
      some ⟨version, kind, name, labels, ⟨height.toFloat, weight.toFloat, antlers⟩⟩ := by
  rw [ofDocument?, asRecord?_of_member? hversion, Option.bind_eq_bind, Option.bind_some, hmetadata,
    Option.bind_eq_bind, Option.bind_some, asRecord?_of_member? hname, Option.bind_eq_bind,
    Option.bind_some, hspec, Option.bind_eq_bind, Option.bind_some, asRecord?_of_member? hheight,
    Option.bind_eq_bind, Option.bind_some, textAt?_of_member? hversion, textAt?_of_member? hkind,
    textAt?_of_member? hname, hlabels, realAt?_of_member? hheight, realAt?_of_member? hweight,
    flagAt?_of_member? hantlers]
  rfl

/-- A document with the members of a manifest gives the manifest. -/
theorem IsIn.ofDocument? (h : m.IsIn doc) : ofDocument? doc = some m := by
  obtain ⟨hversion, hkind, ⟨metadata, hmetadata, hname, hlabels⟩, spec, hspec, hheight, hweight,
    hantlers⟩ := h
  exact ofDocument?_of_members hversion hkind hmetadata hname (labelsAt?_of_member? hlabels) hspec
    hheight hweight hantlers

theorem isIn_document (h : m.HasFiniteSizes) : m.IsIn m.document := by
  constructor
  · rfl
  · rfl
  · exact ⟨_, rfl, rfl, rfl⟩
  · refine ⟨.object [("antlers", .bool m.traits.antlers), ("height", .ofFloat m.traits.height),
      ("weight", .ofFloat m.traits.weight)], rfl, ?_, ?_, rfl⟩
    · exact congrArg some (if_pos h.1)
    · exact congrArg some (if_pos h.2)

/-! ## Further members -/

theorem IsIn.withMembers (h : m.IsIn doc) {set : List (String × Json)}
    (hset : ∀ name ∈ set.map (·.1), name ∉ schema.names) : m.IsIn (doc.withMembers set) := by
  have hkeep : ∀ name ∈ schema.names, (doc.withMembers set).member? name = doc.member? name :=
    fun name hname => Json.member?_withMembers (fun hmem => hset name hmem hname) doc
  obtain ⟨hversion, hkind, hmetadata, hspec⟩ := h
  constructor
  · rwa [hkeep _ (by decide)]
  · rwa [hkeep _ (by decide)]
  · rwa [hkeep _ (by decide)]
  · rwa [hkeep _ (by decide)]

theorem IsIn.modifyMetadata (h : m.IsIn doc) {set : List (String × Json)}
    (hset : ∀ name ∈ set.map (·.1), name ∉ metadataSchema.names) :
    m.IsIn (doc.modifyMember "metadata" (·.withMembers set)) := by
  have hkeep : ∀ name ∈ metadataSchema.names, ∀ metadata : Json,
      (metadata.withMembers set).member? name = metadata.member? name :=
    fun name hname => Json.member?_withMembers fun hmem => hset name hmem hname
  obtain ⟨hversion, hkind, ⟨metadata, hmetadata, hname, hlabels⟩, hspec⟩ := h
  constructor
  · rwa [Json.member?_modifyMember_of_ne (by decide)]
  · rwa [Json.member?_modifyMember_of_ne (by decide)]
  · refine ⟨_, Json.member?_modifyMember_self hmetadata, ?_, ?_⟩
    · rwa [hkeep _ (by decide)]
    · rwa [hkeep _ (by decide)]
  · rwa [Json.member?_modifyMember_of_ne (by decide)]

theorem IsIn.modifySpec (h : m.IsIn doc) {set : List (String × Json)}
    (hset : ∀ name ∈ set.map (·.1), name ∉ specSchema.names) :
    m.IsIn (doc.modifyMember "spec" (·.withMembers set)) := by
  have hkeep : ∀ name ∈ specSchema.names, ∀ spec : Json,
      (spec.withMembers set).member? name = spec.member? name :=
    fun name hname => Json.member?_withMembers fun hmem => hset name hmem hname
  obtain ⟨hversion, hkind, hmetadata, spec, hspec, hheight, hweight, hantlers⟩ := h
  constructor
  · rwa [Json.member?_modifyMember_of_ne (by decide)]
  · rwa [Json.member?_modifyMember_of_ne (by decide)]
  · rwa [Json.member?_modifyMember_of_ne (by decide)]
  · refine ⟨_, Json.member?_modifyMember_self hspec, ?_, ?_, ?_⟩
    · rwa [hkeep _ (by decide)]
    · rwa [hkeep _ (by decide)]
    · rwa [hkeep _ (by decide)]

end Manifest

/-! ## Stamped documents -/

/-- A document as a store keeps it: with four members set in its metadata, and otherwise as it
was. -/
structure IsStamped (target : Target) (number : Nat) (stamp : Stamp) (doc stored : Json) :
    Prop where
  others : ∀ name, name ≠ "metadata" → stored.member? name = doc.member? name
  metadata : ∃ old new, doc.member? "metadata" = some (.object old) ∧
    stored.member? "metadata" = some (.object new) ∧ ∀ name, new.lookup name =
      if name = "namespace" then some (.string target.space)
      else if name = "uid" then some (.string stamp.uid)
      else if name = "resourceVersion" then some (.string (toString number))
      else if name = "creationTimestamp" then some (.string stamp.time)
      else old.lookup name
  /-- Members stay in order, so that nothing but what is found under the names tells documents
  apart. -/
  writable : ∀ levels, Json.IsWritable levels doc → Json.IsWritable levels stored

namespace Json

/-- A member that may stand in a document is set in an object. -/
theorem IsWritable.insertMember {levels : Nat} {members : List (String × Json)}
    (h : IsWritable (levels + 1) (.object members)) {value : Json}
    (hvalue : IsWritable levels value) (name : String) :
    IsWritable (levels + 1) (.object (Json.insertMember name value members)) := by
  cases h with
  | object hnames hvalues =>
    refine .object ?_ ?_
    · rw [map_fst_insertMember]
      exact hnames.insert name
    · intro member hmember
      rcases mem_insertMember hmember with rfl | hmember
      · exact hvalue
      · exact hvalues member hmember

theorem IsWritable.setMembers {levels : Nat} : ∀ {set : List (String × Json)}
    {members : List (String × Json)}, IsWritable (levels + 1) (.object members) →
    (∀ member ∈ set, IsWritable levels member.2) →
    IsWritable (levels + 1)
      (.object (set.foldl (fun acc (k, v) => Json.insertMember k v acc) members))
  | [], _, h, _ => h
  | (k, v) :: set, _, h, hset => by
    rw [List.foldl_cons]
    exact setMembers (h.insertMember (hset (k, v) List.mem_cons_self) k)
      fun member hmember => hset member (List.mem_cons_of_mem _ hmember)

theorem IsWritable.of_lookup {levels : Nat} {members : List (String × Json)} {name : String}
    {value : Json} (h : IsWritable (levels + 1) (.object members))
    (hvalue : members.lookup name = some value) : IsWritable levels value := by
  cases h with
  | object hnames hvalues =>
    exact hvalues _ ((Keys.lookup_eq_some_iff_mem hnames).mp hvalue)

end Json

namespace MemoryStore

variable {store after : MemoryStore} {target : Target} {doc stored : Json}

theorem setMetadata?_of_create (h : store.create target doc = (.ok stored, after)) :
    setMetadata? (stampMembers target (store.created + 1) (store.stamps (store.created + 1))) doc =
      some stored := by
  obtain ⟨stored', hstamped, -, hcreate⟩ :=
    create_of_not_refuses (r := ⟨target, doc⟩) (create_ok_iff.mp ⟨stored, congrArg Prod.fst h⟩)
  rw [hcreate] at h
  cases h
  exact hstamped

/-- **A store sets four members in the metadata of a document and leaves the rest.** -/
theorem isStamped_of_create (h : store.create target doc = (.ok stored, after)) :
    IsStamped target (store.created + 1) (store.stamps (store.created + 1)) doc stored := by
  obtain ⟨top, metadata, rfl, hmetadata, rfl⟩ :=
    setMetadata?_eq_some_iff.mp (setMetadata?_of_create h)
  refine ⟨?_, ⟨metadata, _, hmetadata, Json.lookup_insertMember_self _ _ _, ?_⟩, ?_⟩
  · intro name hname
    exact (Json.lookup_insertMember "metadata" name _ top).trans (if_neg hname)
  · intro name
    simp only [stampMembers, List.foldl_cons, List.foldl_nil, Json.lookup_insertMember]
    -- the members are set in another order than they are listed here, but their names differ
    by_cases hspace : name = "namespace"
    · subst hspace
      rfl
    · by_cases huid : name = "uid"
      · subst huid
        rfl
      · by_cases hversion : name = "resourceVersion"
        · subst hversion
          rfl
        · simp only [if_neg hspace, if_neg huid, if_neg hversion]
  · intro levels hdoc
    cases levels with
    | zero => cases hdoc
    | succ levels =>
      have hinner := hdoc.of_lookup hmetadata
      cases levels with
      | zero => cases hinner
      | succ levels =>
        refine hdoc.insertMember (hinner.setMembers ?_) "metadata"
        simp only [stampMembers, List.forall_mem_cons]
        exact ⟨.string _, .string _, .string _, .string _, List.forall_mem_nil _⟩

end MemoryStore

namespace Manifest

theorem IsIn.of_isStamped {m : Manifest} {doc stored : Json} {target : Target} {number : Nat}
    {stamp : Stamp} (h : m.IsIn doc) (hstored : IsStamped target number stamp doc stored) :
    m.IsIn stored := by
  obtain ⟨old, new, hold, hnew, hlookup⟩ := hstored.metadata
  obtain ⟨hversion, hkind, ⟨metadata, hmetadata, hname, hlabels⟩, hspec⟩ := h
  rw [hold] at hmetadata
  cases hmetadata
  constructor
  · rwa [hstored.others _ (by decide)]
  · rwa [hstored.others _ (by decide)]
  · refine ⟨.object new, hnew, ?_, ?_⟩
    · exact (hlookup "name").trans hname
    · exact (hlookup "labels").trans hlabels
  · rwa [hstored.others _ (by decide)]

/-! ## Sizes that were read -/

theorem isWritable_of_asRecord? {schema : Json.Schema} {levels : Nat} {doc object value : Json}
    {name : String} (hdoc : Json.IsWritable levels doc) (h : schema.asRecord? doc = some object)
    (hvalue : object.member? name = some value) : ∃ levels', Json.IsWritable levels' value := by
  unfold Json.Schema.asRecord? at h
  split at h
  · cases h
    cases levels with
    | zero => cases hdoc
    | succ levels => exact ⟨levels, hdoc.of_lookup hvalue⟩
  · split at h
    · cases h
      obtain ⟨before, rest, hzip, -⟩ := List.lookup_eq_some_iff.mp hvalue
      have hitem := (List.of_mem_zip (hzip ▸ List.mem_append_cons_self)).2
      cases hdoc with
      | array hitems => exact ⟨_, hitems value hitem⟩
    · cases h
  · cases h

theorem isFinite_of_realAt? {schema : Json.Schema} {levels : Nat} {doc object : Json}
    {name : String} {x : Float} (hdoc : Json.IsWritable levels doc)
    (h : schema.asRecord? doc = some object) (hx : realAt? name object = some x) :
    x.isFinite = true := by
  unfold realAt? at hx
  split at hx
  · rename_i n hn
    cases hx
    obtain ⟨_, hwritable⟩ := isWritable_of_asRecord? hdoc h hn
    cases hwritable with
    | number hnumber => exact Json.Number.isFinite_toFloat hnumber
  · cases hx

theorem hasFiniteSizes_of_ofDocument? {levels : Nat} {doc : Json} {m : Manifest}
    (hdoc : Json.IsWritable levels doc) (h : ofDocument? doc = some m) : m.HasFiniteSizes := by
  simp only [ofDocument?, Option.bind_eq_bind, Option.bind_eq_some_iff, Option.pure_def,
    Option.some.injEq] at h
  obtain ⟨object, hobject, _, -, _, -, spec, hspec, specObject, hspecObject, _, -, _, -, _, -, _, -,
    height, hheight, weight, hweight, _, -, rfl⟩ := h
  obtain ⟨_, hwritable⟩ := isWritable_of_asRecord? hdoc hobject hspec
  exact ⟨isFinite_of_realAt? hwritable hspecObject hheight,
    isFinite_of_realAt? hwritable hspecObject hweight⟩

/-! ## What survives -/

/-- **Decoding undoes encoding.** A store returns a document with four members set in its metadata
and nothing else changed. So a manifest comes back from its document, from its document with
further members of any names that it does not use, and from the document that a store returns for
it; and a manifest that was read from a document comes back from the document that is made of
it. -/
theorem survives_storing :
    (∀ (store after : MemoryStore) (target : Target) (doc stored : Json),
      store.create target doc = (.ok stored, after) → IsStamped target (store.created + 1)
        (store.stamps (store.created + 1)) doc stored) ∧
    (∀ m : Manifest, m.HasFiniteSizes →
      ofDocument? m.document = some m ∧
      (∀ top metadata spec : List (String × Json),
        (∀ name ∈ top.map (·.1), name ∉ ["apiVersion", "kind", "metadata", "spec"]) →
        (∀ name ∈ metadata.map (·.1), name ∉ ["name", "labels"]) →
        (∀ name ∈ spec.map (·.1), name ∉ ["height", "weight", "antlers"]) →
        ofDocument? (((m.document.modifyMember "metadata" (·.withMembers metadata)).modifyMember
          "spec" (·.withMembers spec)).withMembers top) = some m) ∧
      ∀ (store after : MemoryStore) (target : Target) (stored : Json),
        store.create target m.document = (.ok stored, after) → ofDocument? stored = some m) ∧
    ∀ (levels : Nat) (doc : Json) (m : Manifest), Json.IsWritable levels doc →
      ofDocument? doc = some m → ofDocument? m.document = some m := by
  refine ⟨?_, ?_, ?_⟩
  · intro store after target doc stored hcreate
    exact MemoryStore.isStamped_of_create hcreate
  · intro m hfinite
    have hin := isIn_document hfinite
    refine ⟨hin.ofDocument?, ?_, ?_⟩
    · intro top metadata spec htop hmetadata hspec
      exact (((hin.modifyMetadata hmetadata).modifySpec hspec).withMembers htop).ofDocument?
    · intro store after target stored hcreate
      exact (hin.of_isStamped (MemoryStore.isStamped_of_create hcreate)).ofDocument?
  · intro levels doc m hdoc hm
    exact (isIn_document (hasFiniteSizes_of_ofDocument? hdoc hm)).ofDocument?

/-- A document that is not written as manifests are: without labels, with arrays for records and a
whole number for a height. -/
def briefDocument : Json :=
  .array [.string "animals.com/v1", .string "Moose", .array [.string "Mika", .object []],
    .array [.number (.whole 2), .number (.real 330.5), .bool false]]

/-- It holds a manifest, which comes back from its document and from the store. -/
theorem survives_storing_of_briefDocument :
    let m : Manifest := ⟨"animals.com/v1", "Moose", "Mika", [], ⟨Float.ofInt 2, 330.5, false⟩⟩
    let store : MemoryStore := { stamps := fun _ => ⟨"1", "2026"⟩ }
    let stored := m.stamped {} 1 ⟨"1", "2026"⟩
    Json.IsWritable 3 briefDocument ∧ ofDocument? briefDocument = some m ∧
      ofDocument? m.document = some m ∧
      (store.create {} m.document).1 = .ok stored ∧ ofDocument? stored = some m := by
  intro m store stored
  have hwritable : Json.IsWritable 3 briefDocument := by
    refine .array ?_
    simp only [List.forall_mem_cons, List.not_mem_nil, false_imp_iff, implies_true, and_true]
    refine ⟨.string _, .string _, .array ?_, .array ?_⟩
    · simp only [List.forall_mem_cons, List.not_mem_nil, false_imp_iff, implies_true, and_true]
      exact ⟨.string _, .object .nil (List.forall_mem_nil _)⟩
    · simp only [List.forall_mem_cons, List.not_mem_nil, false_imp_iff, implies_true, and_true]
      exact ⟨.number (show -(2 ^ 63) ≤ (2 : Int) ∧ (2 : Int) < 2 ^ 64 by decide),
        .number (show (330.5 : Float).isFinite = true by decide +kernel), .bool _⟩
  have hread : ofDocument? briefDocument = some m := rfl
  have hcreate : (store.create {} m.document).1 = .ok stored := rfl
  obtain ⟨-, hstored, hdocument⟩ := survives_storing
  have hfinite : m.HasFiniteSizes := by constructor <;> decide +kernel
  exact ⟨hwritable, hread, hdocument 3 _ m hwritable hread, hcreate,
    (hstored m hfinite).2.2 store _ {} stored (Prod.ext hcreate rfl)⟩

end Manifest

end MooseHerd
