import MooseHerd.Http.Script
import MooseHerd.Proofs.Run.Channels
import MooseHerd.Proofs.Run.Simulation
import MooseHerd.Proofs.Store.Client

/-! # Who sends the requests of a run

The requests of a run are overheard on their way to the network. All of them come from the client
that was made at the start, so they show the sender that the settings tell, and if there is no
client there are none. What the network does with a request is not overheard, so that a request that
it makes again to follow a redirect is none of them. -/

namespace MooseHerd

open Http

/-! ## Requests that are overheard -/

/-- A network together with the requests that were made to it. -/
structure Http.Overheard (ν : Type) where
  network : ν
  /-- The requests so far, in order. -/
  requests : List Request := []

namespace Http.Overheard

variable {ν : Type} [Network ν]

def exchange (overheard : Overheard ν) (request : Request) : Except Fault Answer × Overheard ν :=
  let (result, network) := Network.exchange overheard.network request
  (result, { network, requests := overheard.requests ++ [request] })

instance : Network (Overheard ν) where
  exchange := exchange
  reports overheard := Network.reports overheard.network

end Http.Overheard

namespace ClusterStore

variable {ν : Type} [Network ν]

theorem create_of_no_request {store : ClusterStore ν} {target : Target} {doc : Json}
    (h : store.client.request? target doc = none) :
    ObjectStore.create store target doc = ({ result := .error (.http .unsendable) }, store) := by
  simp only [ObjectStore.create, create, h]

theorem create_of_request {store : ClusterStore ν} {target : Target} {doc : Json}
    {request : Http.Request} (h : store.client.request? target doc = some request) :
    ObjectStore.create store target doc =
      ((Cluster.replyTo (store.client.collectionUrl target) target doc
          (Network.exchange store.network request).1).after
        (Network.reports store.network request.outline),
      { store with network := (Network.exchange store.network request).2 }) := by
  simp only [ObjectStore.create, create, h]

/-- A document is posted by the client of the store, once or not at all. -/
theorem create_overheard (store : ClusterStore (Overheard ν)) (target : Target) (doc : Json) :
    let after := (ObjectStore.create store target doc).2
    after.client = store.client ∧ after.network.requests =
      store.network.requests ++ (store.client.request? target doc).toList := by
  cases hrequest : store.client.request? target doc with
  | none =>
    rw [create_of_no_request hrequest]
    exact ⟨rfl, (List.append_nil _).symm⟩
  | some request =>
    rw [create_of_request hrequest]
    exact ⟨rfl, rfl⟩

end ClusterStore

namespace Run

/-- The same surroundings with requests that are overheard. -/
def Surroundings.overheard {ν : Type} (around : Surroundings ν) : Surroundings (Overheard ν) where
  files := around.files
  network := { network := around.network }
  stamps := around.stamps
  words := around.words
  time := around.time

section

variable {ν : Type}

/-- The requests of a run to the network, in order. -/
def posts (run : Run (Destination (Overheard ν))) : List Http.Request :=
  match run.store with
  | .memory _ => []
  | .cluster store => store.network.requests
  | .none network => network.requests

variable [Network ν] {settings : Settings} {count : Nat} {events : List Log.Event}

/-! ## Runs with a client and without one -/

theorem start_of_client (around : Surroundings ν) {client : ClusterClient}
    (h : ClusterClient.ofSettings settings.cluster around.files = (.ok client, events)) :
    start settings around false count =
      (withStore settings around.words ({ client, network := around.network } : ClusterStore ν)
        count).after ((events ++ [clientEvent settings.cluster]).map .reported) .cluster := by
  simp only [start, Bool.false_eq_true, if_false, h]

theorem start_of_error (around : Surroundings ν) {e : Error}
    (h : ClusterClient.ofSettings settings.cluster around.files = (.error e, events)) :
    start settings around false count =
      { result := .error ⟨some "创建集群客户端失败", e⟩
        steps := events.map .reported
        store := .none around.network } := by
  simp only [start, Bool.false_eq_true, if_false, h]

variable {around : Surroundings ν}

/-- The requests of a run with a client hand over documents to the collection. -/
theorem exists_request_of_mem_posts {client : ClusterClient}
    (h : ClusterClient.ofSettings settings.cluster around.files = (.ok client, events))
    {post : Http.Request} (hpost : post ∈ (start settings around.overheard false count).posts) :
    ∃ doc, client.request? settings.target doc = some post := by
  let Keeps (store : ClusterStore (Overheard ν)) : Prop := store.client = client ∧
    ∀ post ∈ store.network.requests, ∃ doc, client.request? settings.target doc = some post
  have hcreate : ∀ store doc, Keeps store →
      Keeps (ObjectStore.create store settings.target doc).2 := by
    rintro store doc ⟨rfl, hposts⟩
    obtain ⟨hclient, hrequests⟩ := store.create_overheard settings.target doc
    refine ⟨hclient, fun post hpost => ?_⟩
    rw [hrequests, List.mem_append, Option.mem_toList] at hpost
    exact hpost.elim (hposts post) fun hpost => ⟨doc, hpost⟩
  have hrun := withStore_keeps hcreate around.words count
    (s := { client, network := { network := around.network } }) ⟨rfl, nofun⟩
  rw [start_of_client around.overheard h] at hpost
  exact hrun.2 post hpost

/-- The run ended before there was a client. It tells why, and nothing else happened. -/
structure EndsWithoutClient (settings : Settings) (run : Run (Destination (Overheard ν)))
    (e : Error) : Prop where
  result : run.result = .error ⟨some "创建集群客户端失败", e⟩
  posts : run.posts = []
  exchanged : Step.exchanged run.steps = []
  output : run.output settings = ""
  events : Step.events run.steps = ClusterClient.opening settings.cluster

theorem endsWithoutClient_of_error {e : Error}
    (h : ClusterClient.ofSettings settings.cluster around.files =
      (.error e, ClusterClient.opening settings.cluster)) :
    EndsWithoutClient settings (start settings around.overheard false count) e := by
  have hreports (events : List Log.Event) : events.map Step.reported = events.map .reported ++ [] :=
    (List.append_nil _).symm
  rw [start_of_error around.overheard h]
  refine ⟨rfl, rfl, ?_, ?_, ?_⟩
  · rw [hreports, Step.exchanged_reports]
    rfl
  · rw [output, hreports, ← Step.documents_exchanged, Step.exchanged_reports]
    rfl
  · rw [hreports, Step.events_reports]
    exact List.append_nil _

/-- A request goes to the address of the collection and shows who asks: whom the address names, or
else whom the client names. -/
theorem sender_of_mem_posts (hca : settings.cluster.caCertFile = none) {post : Http.Request}
    (hpost : post ∈ (start settings around.overheard false count).posts) :
    ∃ shown, ClusterClient.authorizationOf settings.cluster around.files = .ok shown ∧
      Url.parse? (ClusterClient.dropSlashes settings.cluster.endpoint ++
        settings.target.collectionPath) = some post.url ∧
      post.authorization = (post.url.user.map User.authorization).or shown := by
  have hclient := ClusterClient.ofSettings_of_no_certificate hca around.files
  cases hshown : ClusterClient.authorizationOf settings.cluster around.files with
  | error e =>
    rw [hshown] at hclient
    rw [(endsWithoutClient_of_error hclient).posts] at hpost
    cases hpost
  | ok shown =>
    rw [hshown] at hclient
    obtain ⟨doc, hdoc⟩ := exists_request_of_mem_posts hclient hpost
    obtain ⟨hurl, hauthorization⟩ := ClusterClient.of_request?_eq_some hdoc
    rw [ClusterClient.collectionUrl] at hurl
    exact ⟨shown, rfl, hurl, hauthorization⟩

end

/-- Surroundings with a file for a token, and a server that creates one document. -/
def Surroundings.ofTokenFile (content : String) : Surroundings ScriptedServer where
  files := fun path =>
    if path = "token" then .ok (Text.Utf8.encode content) else .error .notFound
  network := {
    address := "http://kiosk"
    turns := [.answer { status := 201, body := Text.Utf8.encode "null" }] }
  stamps := fun number => ⟨toString number, "2024-01-01T00:00:00Z"⟩
  words := .ofSeed 0

end Run

end MooseHerd
