import MooseHerd.Proofs.Run.Posts

/-! # The bearer token stays secret

Two runs are compared whose settings differ in nothing but the bearer token. They do the same as
far as a network, a reader of the output or a reader of the reports can tell: all that a token
decides is whether there is a client, and all that it changes is how a request shows who sends
it. -/

namespace MooseHerd

open Http

/-- The request without what shows who sends it. -/
def Http.Request.anonymous (r : Http.Request) : Http.Request := { r with authorization := none }

/-- States of a network that are told apart by nothing but the senders of earlier requests, none of
which makes a difference to what is answered or reported. -/
structure Http.IsBlindToSender {ν : Type} [Network ν] (R : ν → ν → Prop) : Prop where
  exchange : ∀ {n n' : ν} {request request' : Http.Request}, R n n' →
    request'.anonymous = request.anonymous →
    (Network.exchange n' request').1 = (Network.exchange n request).1 ∧
    R (Network.exchange n request).2 (Network.exchange n' request').2
  reports : ∀ {n n' : ν} (outline : Http.Request), R n n' →
    Network.reports n' outline = Network.reports n outline

/-- A network that answers to a request whoever sends it. -/
def Http.IgnoresSender {ν : Type} [Network ν] (network : ν) : Prop :=
  ∃ R : ν → ν → Prop, R network network ∧ IsBlindToSender R

theorem Http.ScriptedServer.ignoresSender (server : ScriptedServer) : IgnoresSender server := by
  refine ⟨fun s s' => s'.address = s.address ∧ s'.listens = s.listens ∧ s'.turns = s.turns,
    ⟨rfl, rfl, rfl⟩, ?_, fun _ _ => rfl⟩
  rintro s s' request request' ⟨haddress, hlistens, hturns⟩ hanonymous
  have hurl : request'.url = request.url := (congrArg Request.url hanonymous :)
  simp only [Network.exchange, exchange, hurl, haddress, hlistens, hturns]
  split
  · exact ⟨rfl, haddress, hlistens, hturns⟩
  · cases s.turns with
    | nil => exact ⟨rfl, rfl, rfl, rfl⟩
    | cons turn turns => exact ⟨rfl, rfl, rfl, rfl⟩

/-- The settings without what tells the bearer token. -/
def ClusterSettings.withoutToken (c : ClusterSettings) : ClusterSettings :=
  { c with token := none, tokenFile := none }

def Settings.withoutToken (s : Settings) : Settings :=
  { s with cluster := s.cluster.withoutToken }

/-- Settings that, with the files that are read, differ in nothing but the bearer token. -/
structure Settings.DifferInToken (s s' : Settings) (files files' : Files.Reader) : Prop where
  rest : s'.withoutToken = s.withoutToken
  /-- The other file that is read, for a further certificate, is the same. -/
  certificate : ∀ path, s.cluster.caCertFile = some path → files' path = files path
  /-- Either token can be sent if the other one can. -/
  tokens : ∃ token token', s.cluster.HasToken files token ∧ s'.cluster.HasToken files' token' ∧
    (ClusterClient.HasControl token' ↔ ClusterClient.HasControl token)

/-! ## Clients -/

namespace ClusterClient

variable {client client' : ClusterClient}

/-- Clients of one address that both show a sender or both do not. -/
structure DifferInSender (client client' : ClusterClient) : Prop where
  endpoint : client'.endpoint = client.endpoint
  shown : client'.authorization.isSome = client.authorization.isSome

/-- Such clients make the same requests but for the sender, and reports tell the same of them. -/
theorem DifferInSender.request? (h : client.DifferInSender client') (target : Target)
    (doc : Json) :
    (client.request? target doc = none ∧ client'.request? target doc = none) ∨
    ∃ request request', client.request? target doc = some request ∧
      client'.request? target doc = some request' ∧ request'.anonymous = request.anonymous ∧
      request'.outline = request.outline := by
  rw [ClusterClient.request?, ClusterClient.request?, collectionUrl_of_endpoint h.endpoint]
  cases Url.parse? (client.collectionUrl target) with
  | none => exact .inl ⟨rfl, rfl⟩
  | some url =>
    refine .inr ⟨_, _, rfl, rfl, rfl, ?_⟩
    have hcovered : client'.authorization.map (fun _ => "Sensitive") =
        client.authorization.map fun _ => "Sensitive" := by
      have hshown := h.shown
      revert hshown
      cases client.authorization <;> cases client'.authorization <;> simp
    simp only [Http.Request.outline, Option.map_or, hcovered]

section

variable {settings settings' : Settings} {files files' : Files.Reader}

theorem checkCertificate_of_differInToken (h : settings.DifferInToken settings' files files') :
    checkCertificate settings'.cluster files' = checkCertificate settings.cluster files := by
  have hpath : settings'.cluster.caCertFile = settings.cluster.caCertFile :=
    (congrArg (·.cluster.caCertFile) h.rest :)
  unfold checkCertificate
  rw [hpath]
  cases hca : settings.cluster.caCertFile with
  | none => rfl
  | some path =>
    dsimp only
    rw [h.certificate path hca]

/-- Both settings have a client for one address, or none for one reason. -/
theorem clients_of_differInToken (h : settings.DifferInToken settings' files files') :
    (∃ e events, ofSettings settings.cluster files = (.error e, events) ∧
      ofSettings settings'.cluster files' = (.error e, events)) ∨
    ∃ client client' events, ofSettings settings.cluster files = (.ok client, events) ∧
      ofSettings settings'.cluster files' = (.ok client', events) ∧
      client.DifferInSender client' := by
  have hopening : opening settings'.cluster = opening settings.cluster :=
    (congrArg (opening ·.cluster) h.rest :)
  have hendpoint : settings'.cluster.endpoint = settings.cluster.endpoint :=
    (congrArg (·.cluster.endpoint) h.rest :)
  obtain ⟨token, token', htoken, htoken', hboth⟩ := h.tokens
  rw [ofSettings_eq, ofSettings_eq, checkCertificate_of_differInToken h, hopening, hendpoint]
  cases checkCertificate settings.cluster files with
  | error e => exact .inl ⟨e, [], rfl, rfl⟩
  | ok _ =>
    by_cases hcontrol : HasControl token
    · rw [authorizationOf_of_hasControl htoken hcontrol,
        authorizationOf_of_hasControl htoken' (hboth.mpr hcontrol)]
      exact .inl ⟨_, _, rfl, rfl⟩
    · rw [authorizationOf_of_sendable htoken hcontrol,
        authorizationOf_of_sendable htoken' (mt hboth.mp hcontrol)]
      exact .inr ⟨_, _, _, rfl, rfl, rfl, rfl⟩

end

end ClusterClient

namespace ClusterStore

variable {ν : Type} [Network ν] {R : ν → ν → Prop}

/-- The stores have clients of one address, and their networks were sent the same requests by
whomever. -/
structure DifferInSender (R : ν → ν → Prop) (store store' : ClusterStore (Overheard ν)) :
    Prop where
  client : store.client.DifferInSender store'.client
  network : R store.network.network store'.network.network
  requests : store'.network.requests.map Http.Request.anonymous =
    store.network.requests.map Http.Request.anonymous

/-- Which sender is shown makes no difference to a network that does not ask. -/
theorem repliesAlike_of_isBlindToSender (target : Target) (hR : IsBlindToSender R) :
    RepliesAlike (DifferInSender R) target := by
  intro store store' doc h
  have hurl := ClusterClient.collectionUrl_of_endpoint h.client.endpoint target
  rcases h.client.request? target doc with
    ⟨hnone, hnone'⟩ | ⟨request, request', hrequest, hrequest', hanonymous, houtline⟩
  · rw [create_of_no_request hnone, create_of_no_request hnone']
    exact ⟨rfl, h⟩
  · obtain ⟨hanswer, hnetwork⟩ := hR.exchange h.network hanonymous
    have hreply : Cluster.replyTo (store.client.collectionUrl target) target doc
          (Network.exchange store'.network request').1 =
        Cluster.replyTo (store.client.collectionUrl target) target doc
          (Network.exchange store.network request).1 :=
      congrArg _ hanswer
    have hreports : Network.reports store'.network request'.outline =
        Network.reports store.network request.outline := by
      rw [houtline]
      exact hR.reports request.outline h.network
    rw [create_of_request hrequest, create_of_request hrequest', hurl, hreply, hreports]
    refine ⟨rfl, h.client, hnetwork, ?_⟩
    change (store'.network.requests ++ [request']).map Http.Request.anonymous =
      (store.network.requests ++ [request]).map Http.Request.anonymous
    rw [List.map_append, List.map_append, h.requests, List.map_singleton, List.map_singleton,
      hanonymous]

end ClusterStore

/-! ## Runs -/

namespace Run

theorem withStore_withoutToken {σ : Type} [ObjectStore σ] (settings : Settings)
    (provided : Random.ChaChaStream) (store : σ) (count : Nat) :
    withStore settings.withoutToken provided store count =
      withStore settings provided store count := rfl

theorem output_withoutToken {σ : Type} (settings : Settings) (run : Run σ) :
    run.output settings.withoutToken = run.output settings := rfl

/-- **The bearer token does not leak.** Of two runs whose settings differ in nothing but the bearer
token, and whose tokens can both be sent or neither, nothing differs but how requests show their
sender: both end with the same report or error, print the same, report the same at every level, and
post the same. The reports are those of the program and those of what carries its requests. -/
theorem token_does_not_leak {ν : Type} [Network ν] {settings settings' : Settings}
    {around : Surroundings ν} {files' : Files.Reader} (count : Nat)
    (h : settings.DifferInToken settings' around.files files')
    (hnetwork : IgnoresSender around.network) :
    let run := start settings around.overheard false count
    let run' := start settings' { around.overheard with files := files' } false count
    run'.result = run.result ∧ run'.steps = run.steps ∧
      run'.output settings' = run.output settings ∧
      run'.posts.map Request.anonymous = run.posts.map Request.anonymous := by
  intro run run'
  obtain ⟨R, hstart, hR⟩ := hnetwork
  suffices hrun : run'.result = run.result ∧ run'.steps = run.steps ∧
      run'.posts.map Request.anonymous = run.posts.map Request.anonymous by
    obtain ⟨hresult, hsteps, hposts⟩ := hrun
    refine ⟨hresult, hsteps, ?_, hposts⟩
    rw [← output_withoutToken, h.rest, output_withoutToken, output, hsteps, hresult]
    rfl
  rcases ClusterClient.clients_of_differInToken h with ⟨e, events, hclient, hclient'⟩ |
    ⟨client, client', events, hclient, hclient', hsender⟩
  · have hrun : run = _ := start_of_error around.overheard hclient
    have hrun' : run' = _ := start_of_error { around.overheard with files := files' } hclient'
    rw [hrun, hrun']
    exact ⟨rfl, rfl, rfl⟩
  · have hrun : run = _ := start_of_client around.overheard hclient
    have hrun' : run' = _ := start_of_client { around.overheard with files := files' } hclient'
    have hevent : clientEvent settings'.cluster = clientEvent settings.cluster :=
      (congrArg (clientEvent ·.cluster) h.rest :)
    rw [← withStore_withoutToken, h.rest, withStore_withoutToken, hevent] at hrun'
    obtain ⟨hresult, hsteps, hstore⟩ := withStore_alike
      (ClusterStore.repliesAlike_of_isBlindToSender settings.target hR) around.words count
      (s := { client, network := { network := around.network } })
      (t := { client := client', network := { network := around.network } })
      ⟨hsender, hstart, rfl⟩
    rw [hrun, hrun']
    exact ⟨hresult, congrArg (_ ++ ·) hsteps, hstore.requests⟩

/-- One token in a file with white space around it, and another one that is given. -/
theorem token_does_not_leak_of_two_sources :
    let settings : Settings :=
      { cluster := { endpoint := "http://kiosk", tokenFile := some "token" } }
    let settings' : Settings :=
      { cluster := { endpoint := "http://kiosk", token := some "beta" } }
    let around := Surroundings.ofTokenFile " alpha\n"
    let run := start settings around.overheard false 1
    let run' := start settings' around.overheard false 1
    settings.DifferInToken settings' around.files around.files ∧ IgnoresSender around.network ∧
      run.posts.map (·.authorization) = [some "Bearer alpha"] ∧
      run'.posts.map (·.authorization) = [some "Bearer beta"] ∧
      run'.steps = run.steps ∧
      run'.posts.map Request.anonymous = run.posts.map Request.anonymous := by
  intro settings settings' around run run'
  have hfile : around.files "token" = .ok (Text.Utf8.encode " alpha\n") := rfl
  have hdiffer : settings.DifferInToken settings' around.files around.files := {
    rest := rfl
    certificate := nofun
    tokens := ⟨"alpha", "beta",
      .kept rfl rfl hfile (Text.isTrimmed_iff.mpr (by decide +kernel)),
      .given rfl (Text.isTrimmed_iff.mpr (by decide +kernel)), by decide⟩ }
  have hserver : IgnoresSender around.network := ScriptedServer.ignoresSender _
  obtain ⟨-, hsteps, -, hposts⟩ := token_does_not_leak 1 hdiffer hserver
  exact ⟨hdiffer, hserver, by decide +kernel, by decide +kernel, hsteps, hposts⟩

end Run

end MooseHerd
