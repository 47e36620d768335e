import MooseHerd.Proofs.Manifest.Stamped
import MooseHerd.Proofs.Populate.Cluster
import MooseHerd.Proofs.Populate.Simulation
import MooseHerd.Proofs.Text.Utf8

/-! # Dry runs and clusters

A server that refuses the names of its collection and stores every other document answers as the
store in memory does. Only the doubles in its answers are rounded on the way back, so that a dry run
shows what a batch on the cluster comes to. -/

namespace MooseHerd

open Http

/-! ## Servers of collections -/

/-- The body of an answer is a document as JSON. Blanks, escapes and the order of members are up to
whoever writes it. -/
def Http.Answer.Spells (a : Answer) (doc : Json) : Prop :=
  a.complete = true ∧
    ∃ text, a.body = Text.Utf8.encode text ∧ Json.parse text = Json.parse doc.compact

/-- A network with a server that keeps a collection. `Holds network names number` tells that the
documents with these names are there and that so many documents were created. -/
structure Serves {ν : Type} [Network ν] (client : ClusterClient) (target : Target)
    (stamps : Nat → Stamp) (docs : List Json) (Holds : ν → Set String → Nat → Prop) : Prop where
  /-- The collection has an address. -/
  address : (Url.parse? (client.collectionUrl target)).isSome = true
  /-- A document whose name is there is refused as a duplicate, in whatever words. -/
  refuses : ∀ {network names number doc name request}, Holds network names number → doc ∈ docs →
    documentName? doc = some name → name ∈ names → client.request? target doc = some request →
    ∃ answer next, Network.exchange network request = (.ok answer, next) ∧
      answer.status = 409 ∧ Holds next names number
  /-- Every other document is stamped, stored and given back. -/
  creates : ∀ {network names number doc name request}, Holds network names number → doc ∈ docs →
    documentName? doc = some name → name ∉ names → client.request? target doc = some request →
    ∃ answer next stored, Network.exchange network request = (.ok answer, next) ∧
      answer.status = 201 ∧ answer.Spells stored ∧
      MemoryStore.setMetadata?
        (MemoryStore.stampMembers target (number + 1) (stamps (number + 1))) doc = some stored ∧
      Holds next (insert name names) (number + 1)

namespace Cluster

variable {target : Target} {doc : Json} {a : Answer}

theorem verdict_of_duplicate {name : String} (ha : a.status = 409)
    (hname : documentName? doc = some name) :
    verdict target doc a = .error (.alreadyExists target.resourceType name) := by
  have hsuccess : a.isSuccess = false := by
    rw [Answer.isSuccess, ha]
    rfl
  rw [verdict, hsuccess, if_neg Bool.false_ne_true, errorOfStatus, ha, shownName, hname]
  rfl

/-- A document that was created comes back as its text is read. -/
theorem verdict_of_created {stored : Json} (ha : a.status = 201) (hspells : a.Spells stored)
    (hstored : Json.IsWritable Json.nestingLimit stored) :
    verdict target doc a = .ok stored.reread := by
  obtain ⟨hcomplete, text, hbody, htext⟩ := hspells
  have hsuccess : a.isSuccess = true := by
    rw [Answer.isSuccess, ha]
    rfl
  have hbytes : a.bytes? = some (Text.Utf8.encode text) := by
    have hbodiless : a.isBodiless = false := by
      rw [Answer.isBodiless, ha]
      rfl
    rw [Answer.bytes?, hbodiless, hcomplete, hbody]
    rfl
  refine verdict_eq_ok_iff.mpr ⟨hsuccess, ?_⟩
  have hparse : Json.parse text = .ok stored.reread := by
    rw [htext, Json.parse_compact hstored]
  simp only [documentOf?, hbytes, Text.Utf8.decode?_encode, Option.bind_eq_bind, Option.bind_some,
    hparse]

end Cluster

/-! ## Batches on a cluster -/

section

variable {ν : Type} [Network ν] {client : ClusterClient} {target : Target} {stamps : Nat → Stamp}
  {docs : List Json} {Holds : ν → Set String → Nat → Prop}

/-- A store in memory and the server of a cluster have the same names in a collection and have
created as many documents. -/
structure Mirrors (client : ClusterClient) (target : Target) (stamps : Nat → Stamp)
    (Holds : ν → Set String → Nat → Prop) (store : MemoryStore) (cluster : ClusterStore ν) :
    Prop where
  client_eq : cluster.client = client
  stamps_eq : store.stamps = stamps
  names : ∃ names, Holds cluster.network names store.created ∧
    ∀ name, store.contains target name = true ↔ name ∈ names

namespace Populate

/-- One document: it is refused by both stores or stored by both, with the same stamps. -/
theorem answersAs_of_serves (hserves : Serves client target stamps docs Holds) {m : Manifest}
    (hm : m.document ∈ docs) (hname : m.name ≠ "") (hlabels : m.HasAscendingLabels)
    {f : Json → Json}
    (hf : ∀ number stamp,
      f (m.stamped target number stamp) = (m.stamped target number stamp).reread) :
    AnswersAs f (Mirrors client target stamps Holds) target m := by
  rintro store cluster ⟨rfl, rfl, names, hholds, hnames⟩
  have hdocument := documentName?_document m
  obtain ⟨url, hurl⟩ := Option.isSome_iff_exists.mp hserves.address
  obtain ⟨request, hrequest⟩ : ∃ request, cluster.client.request? target m.document =
      some request := by
    rw [ClusterClient.request?, hurl]
    exact ⟨_, rfl⟩
  by_cases htaken : m.name ∈ names
  · obtain ⟨a, next, hexchange, hstatus, hnext⟩ :=
      hserves.refuses hholds hm hdocument htaken hrequest
    obtain ⟨hresult, hcluster⟩ := ClusterStore.create_of_exchange hrequest hexchange
    rw [hresult, hcluster, Cluster.verdict_of_duplicate hstatus hdocument,
      MemoryStore.create_document_of_contains hname ((hnames m.name).mpr htaken)]
    exact ⟨rfl, rfl, rfl, names, hnext, hnames⟩
  · obtain ⟨a, next, stored, hexchange, hstatus, hspells, hstored, hnext⟩ :=
      hserves.creates hholds hm hdocument htaken hrequest
    rw [Manifest.setMetadata?_document] at hstored
    cases hstored
    obtain ⟨hresult, hcluster⟩ := ClusterStore.create_of_exchange hrequest hexchange
    rw [hresult, hcluster,
      Cluster.verdict_of_created hstatus hspells (Manifest.isWritable_stamped hlabels _ _ _),
      MemoryStore.create_document_of_not_contains hname (fun h => htaken ((hnames m.name).mp h))]
    refine ⟨congrArg Except.ok (hf _ _).symm, rfl, rfl, insert m.name names, hnext, ?_⟩
    intro name
    rw [MemoryStore.contains_add, Set.mem_insert_iff, hnames]

section

variable {store : MemoryStore} {batch : List Manifest} {network : ν} {names : Set String}

/-- The whole batch, for any change of documents that does to the stored ones what reading does. -/
theorem populate_simulates_of_serves
    (hserves : Serves client target store.stamps (batch.map (·.document)) Holds)
    (hholds : Holds network names store.created)
    (hnames : ∀ name, store.contains target name = true ↔ name ∈ names)
    (hbatch : ∀ m ∈ batch, m.name ≠ "" ∧ m.HasAscendingLabels) {f : Json → Json}
    (hf : ∀ m ∈ batch, ∀ number stamp,
      f (m.stamped target number stamp) = (m.stamped target number stamp).reread) :
    let dry := populate target store batch
    let run := populate target ({ client, network } : ClusterStore ν) batch
    run.result = dry.result.map (Report.mapStored f) ∧
      Step.documents run.steps = (Step.documents dry.steps).map f ∧
      Mirrors client target store.stamps Holds dry.store run.store := by
  have hmirrors : Mirrors client target store.stamps Holds store { client, network } :=
    ⟨rfl, rfl, names, hholds, hnames⟩
  refine populate_simulates (fun m hm => ?_) hmirrors
  obtain ⟨hname, hlabels⟩ := hbatch m hm
  exact answersAs_of_serves hserves (List.mem_map_of_mem hm) hname hlabels (hf m hm)

end

end Populate

end

/-! ## A server of one collection -/

/-- A server of one collection. It knows the documents that it may be sent, so that it reads their
texts as they were meant. -/
structure Register where
  target : Target
  stamps : Nat → Stamp
  docs : List Json
  /-- The names that are there. -/
  names : List String
  /-- How many documents were created. -/
  number : Nat

namespace Register

/-- The document of a text, among those that may come. -/
def read? (docs : List Json) (text : String) : Option Json := docs.find? (·.compact = text)

def exchange (server : Register) (request : Http.Request) :
    Except Http.Fault Http.Answer × Register :=
  match read? server.docs request.body with
  | none => (.ok { status := 400, body := [] }, server)
  | some doc =>
    match documentName? doc with
    | none => (.ok { status := 422, body := [] }, server)
    | some name =>
      if name ∈ server.names then (.ok { status := 409, body := [] }, server)
      else
        let number := server.number + 1
        match MemoryStore.setMetadata?
            (MemoryStore.stampMembers server.target number (server.stamps number)) doc with
        | none => (.ok { status := 422, body := [] }, server)
        | some stored =>
          (.ok { status := 201, body := Text.Utf8.encode stored.compact },
            { server with names := name :: server.names, number })

instance : Network Register where
  exchange := exchange

/-- The server of a collection has these names and has created so many documents. -/
def Holds (target : Target) (stamps : Nat → Stamp) (docs : List Json) (server : Register)
    (names : Set String) (number : Nat) : Prop :=
  ∃ taken, server = { target, stamps, docs, names := taken, number } ∧
    ∀ name, name ∈ taken ↔ name ∈ names

variable {client : ClusterClient} {target : Target} {stamps : Nat → Stamp} {docs : List Json}

theorem read?_compact {doc : Json} (hdistinct : (docs.map Json.compact).Nodup) (hdoc : doc ∈ docs) :
    read? docs doc.compact = some doc := by
  obtain ⟨found, hfound⟩ : ∃ found, read? docs doc.compact = some found :=
    Option.isSome_iff_exists.mp (List.find?_isSome.mpr ⟨doc, hdoc, decide_eq_true rfl⟩)
  have hsame : found.compact = doc.compact :=
    of_decide_eq_true (List.find?_eq_some_iff_append.mp hfound).1
  rw [hfound, List.inj_on_of_nodup_map hdistinct (List.mem_of_find?_eq_some hfound) hdoc hsame]

theorem serves (haddress : (Url.parse? (client.collectionUrl target)).isSome = true)
    (hdistinct : (docs.map Json.compact).Nodup)
    (hmetadata : ∀ doc ∈ docs, ∀ members, (MemoryStore.setMetadata? members doc).isSome = true) :
    Serves client target stamps docs (Holds target stamps docs) := by
  have hread : ∀ {doc : Json} {request : Http.Request}, doc ∈ docs →
      client.request? target doc = some request → read? docs request.body = some doc := by
    intro doc request hdoc hrequest
    obtain ⟨url, -, hbody⟩ := Option.bind_eq_some_iff.mp hrequest
    cases hbody
    exact read?_compact hdistinct hdoc
  refine ⟨haddress, ?_, ?_⟩
  · rintro server names number doc name request ⟨taken, rfl, htaken⟩ hdoc hname hmem hrequest
    refine ⟨{ status := 409, body := [] }, _, ?_, rfl, taken, rfl, htaken⟩
    change exchange _ request = _
    simp only [exchange, hread hdoc hrequest, hname, if_pos ((htaken name).mpr hmem)]
  · rintro server names number doc name request ⟨taken, rfl, htaken⟩ hdoc hname hmem hrequest
    obtain ⟨stored, hstored⟩ := Option.isSome_iff_exists.mp
      (hmetadata doc hdoc (MemoryStore.stampMembers target (number + 1) (stamps (number + 1))))
    refine ⟨{ status := 201, body := Text.Utf8.encode stored.compact },
      { target, stamps, docs, names := name :: taken, number := number + 1 }, stored, ?_, rfl,
      ⟨rfl, stored.compact, rfl, rfl⟩, hstored, name :: taken, rfl, ?_⟩
    · change exchange _ request = _
      simp only [exchange, hread hdoc hrequest, hname,
        if_neg (fun h => hmem ((htaken name).mp h)), hstored]
    · intro other
      rw [List.mem_cons, Set.mem_insert_iff, htaken]

end Register

namespace Populate

/-- A store in which there are documents with these names already. -/
def storeOf (names : List String) : MemoryStore :=
  names.foldl (fun store name => store.add (MemoryStore.key {} name) (mooseOf name).document)
    { stamps := fun number => { uid := toString number, time := "1970-01-01T00:00:00Z" } }

/-- A server with as many, which knows the documents of a batch. -/
def registerOf (names : List String) (batch : List Manifest) : Register where
  target := {}
  stamps := (storeOf []).stamps
  docs := batch.map (·.document)
  names := names
  number := names.length

theorem hasAscendingLabels_mooseOf (name : String) : (mooseOf name).HasAscendingLabels :=
  List.pairwise_singleton _ _

theorem serves_registerOf {batch : List Manifest}
    (hdistinct : ((batch.map (·.document)).map Json.compact).Nodup) :
    Serves kioskClient {} (storeOf []).stamps (batch.map (·.document))
      (Register.Holds {} (storeOf []).stamps (batch.map (·.document))) := by
  refine Register.serves ?_ hdistinct ?_
  · decide +kernel
  · intro doc hdoc members
    obtain ⟨m, -, rfl⟩ := List.mem_map.mp hdoc
    rfl

/-- A moose whose height is a double that is not read from its text as it is. -/
def roundedMoose : Manifest :=
  .ofMoose "animals.com/v1" "Moose" "milo" "glacier"
    ⟨Float.ofBits 4610329754660986852, 400.5, true⟩

/-- The heights of the documents that came back, bit by bit. -/
def heights? (result : Except Error Report) : Option (List UInt64) :=
  match result with
  | .ok report => report.stored.mapM fun doc =>
      (doc.member? "spec").bind fun spec => (Manifest.realAt? "height" spec).map Float.toBits
  | .error _ => none

end Populate

end MooseHerd
