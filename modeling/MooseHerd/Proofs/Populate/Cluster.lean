import MooseHerd.Http.Script
import MooseHerd.Proofs.Populate.Course
import MooseHerd.Store.Cluster

/-! # Batches in the store of a cluster

Every document of a batch is posted once, and the batch ends with the first post that brings no
document back. A network that remembers its answers is compared with what the batch reports. -/

namespace MooseHerd

/-! ## Answers that are remembered -/

/-- A network together with the answers that it gave. -/
structure Http.Recorded (ν : Type) where
  network : ν
  /-- The answers so far, in order. -/
  answers : List Http.Answer := []

namespace Http.Recorded

variable {ν : Type} [Network ν]

def exchange (record : Recorded ν) (request : Http.Request) :
    Except Fault Answer × Recorded ν :=
  match Network.exchange record.network request with
  | (.ok answer, network) => (.ok answer, { network, answers := record.answers ++ [answer] })
  | (.error fault, network) => (.error fault, { record with network })

instance : Network (Recorded ν) where
  exchange := exchange
  reports record := Network.reports record.network

end Http.Recorded

open Http

/-! ## One answer -/

namespace Cluster

/-- What an answer makes of a document that was posted. -/
def verdict (target : Target) (doc : Json) (a : Answer) : Except Error Json :=
  if a.isSuccess then
    match documentOf? a with
    | some stored => .ok stored
    | none => .error (.http a.bodyFault)
  else .error (errorOfStatus a.status (a.text?.getD "") target (shownName doc))

/-- An answer by which the server created a document, but which holds none. -/
def isUnread (a : Answer) : Bool := a.isSuccess && (documentOf? a).isNone

variable {target : Target} {doc : Json} {a : Answer}

theorem replyOf_result (url : String) :
    (replyOf url target doc a).result = verdict target doc a := by
  unfold replyOf verdict
  by_cases hsuccess : a.isSuccess = true
  · cases hdocument : documentOf? a with
    | none => simp only [if_pos hsuccess]
    | some stored => simp only [if_pos hsuccess]
  · cases htext : a.text? with
    | none => simp only [if_neg hsuccess, Option.getD_none]
    | some body => simp only [if_neg hsuccess, Option.getD_some]

theorem verdict_eq_ok_iff {stored : Json} :
    verdict target doc a = .ok stored ↔ a.isSuccess = true ∧ documentOf? a = some stored := by
  unfold verdict
  by_cases hsuccess : a.isSuccess = true
  · rw [if_pos hsuccess]
    cases hdoc : documentOf? a with
    | none => simp
    | some found => simp [hsuccess]
  · rw [if_neg hsuccess]
    simp [hsuccess]

theorem isUnread_eq_false (h : documentOf? a ≠ none) : isUnread a = false := by
  rw [isUnread, Option.isNone_eq_false_iff.mpr (Option.isSome_iff_ne_none.mpr h), Bool.and_false]

/-- A post that is answered brings no document back if the server refuses or if its answer cannot
be read. -/
theorem verdict_eq_error {e : Error} (h : verdict target doc a = .error e) :
    (isUnread a = true ∧ e = .http a.bodyFault) ∨
      (a.isSuccess = false ∧
        e = errorOfStatus a.status (a.text?.getD "") target (shownName doc)) := by
  unfold verdict at h
  by_cases hsuccess : a.isSuccess = true
  · rw [if_pos hsuccess] at h
    cases hdoc : documentOf? a with
    | none =>
      rw [hdoc] at h
      cases h
      exact .inl ⟨by simp [isUnread, hsuccess, hdoc], rfl⟩
    | some stored =>
      rw [hdoc] at h
      cases h
  · rw [if_neg hsuccess] at h
    cases h
    exact .inr ⟨Bool.eq_false_iff.mpr hsuccess, rfl⟩

/-- An answer that brings no document back is unread if it is a success. -/
theorem isUnread_eq_isSuccess {e : Error} (h : verdict target doc a = .error e) :
    isUnread a = a.isSuccess := by
  rcases verdict_eq_error h with ⟨hunread, -⟩ | ⟨hrefused, -⟩
  · rw [hunread, (Bool.and_eq_true_iff.mp hunread).1]
  · rw [isUnread, hrefused, Bool.false_and]

/-- If only the last answer can be unread, there is a success for each other one and for the last
if it is unread. -/
theorem countP_isSuccess {read : List Answer} {last : Option Answer}
    (hread : ∀ a ∈ read, a.isSuccess = true ∧ isUnread a = false)
    (hlast : ∀ a ∈ last, isUnread a = a.isSuccess) :
    read.length + (read ++ last.toList).countP isUnread =
      (read ++ last.toList).countP (·.isSuccess) := by
  have hunread : read.countP isUnread = 0 := by
    rw [List.countP_eq_zero]
    intro a ha
    rw [(hread a ha).2]
    exact Bool.false_ne_true
  have hsuccess : read.countP (·.isSuccess) = read.length := by
    rw [List.countP_eq_length]
    exact fun a ha => (hread a ha).1
  rw [List.countP_append, List.countP_append, hunread, hsuccess, Nat.zero_add]
  cases last with
  | none => rfl
  | some a =>
    rw [Option.toList_some, List.countP_singleton, List.countP_singleton, hlast a rfl]

/-- A refusal may pass if the server says that there were too many requests or, by its status, that
the fault is its own. Every status from 500 on counts as such. -/
theorem isRetryable_errorOfStatus (status : Nat) (body name : String) :
    (errorOfStatus status body target name).isRetryable = true ↔ status = 429 ∨ 500 ≤ status := by
  unfold errorOfStatus
  dsimp only
  repeat' split
  -- the statuses with an error of their own are neither 429 nor from 500 on
  all_goals
    simp only [Error.isRetryable, Bool.or_eq_true, beq_iff_eq, decide_eq_true_eq,
      Bool.false_eq_true, false_iff]
  all_goals omega

end Cluster

/-- The answer to a post tells what comes of it. -/
theorem ClusterStore.create_of_exchange {ν : Type} [Network ν] {target : Target}
    {cluster : ClusterStore ν} {doc : Json} {request : Http.Request} {a : Answer} {next : ν}
    (hrequest : cluster.client.request? target doc = some request)
    (h : Network.exchange cluster.network request = (.ok a, next)) :
    (ObjectStore.create cluster target doc).1.result = Cluster.verdict target doc a ∧
      (ObjectStore.create cluster target doc).2 = { cluster with network := next } := by
  simp only [ObjectStore.create, create, hrequest, h, and_true]
  exact Cluster.replyOf_result _

/-! ## A whole batch -/

namespace Populate

variable {ν : Type} [Network ν] (target : Target)

/-- A document is posted at most once, and what comes of it is told by the answer. -/
theorem create_recorded (store : ClusterStore (Recorded ν)) (doc : Json) :
    let reply := ObjectStore.create store target doc
    (∃ fault, reply.1.result = .error (.http fault) ∧
      reply.2.network.answers = store.network.answers) ∨
    (∃ a, reply.1.result = Cluster.verdict target doc a ∧
      reply.2.network.answers = store.network.answers ++ [a]) := by
  simp only [ObjectStore.create, ClusterStore.create]
  cases store.client.request? target doc with
  | none => exact .inl ⟨.unsendable, rfl, rfl⟩
  | some request =>
    simp only [Network.exchange, Recorded.exchange]
    rcases Network.exchange store.network.network request with ⟨fault | a, network⟩
    · exact .inl ⟨fault, rfl, rfl⟩
    · exact .inr ⟨a, Cluster.replyOf_result _, rfl⟩

/-- The answers to a batch: each of them brings a document back, but for the one that ends the
batch, if the batch does not end without an answer. -/
theorem course_recorded (total : Nat) : ∀ (batch : List Manifest) (created : Nat)
    (store : ClusterStore (Recorded ν)),
    let c := course target total created batch store
    ∃ read : List Answer, read.map Cluster.documentOf? = c.stored.map some ∧
      (∀ a ∈ read, a.isSuccess = true) ∧
      ((c.failure = none ∧ c.store.network.answers = store.network.answers ++ read) ∨
      ∃ m cause, batch[c.stored.length]? = some m ∧
        c.failure = some (.aborted (created + c.stored.length) total m.name cause) ∧
        ((∃ fault, cause = .http fault ∧
            c.store.network.answers = store.network.answers ++ read) ∨
          ∃ a, Cluster.verdict target m.document a = .error cause ∧
            c.store.network.answers = store.network.answers ++ read ++ [a]))
  | [], _, store => ⟨[], rfl, nofun, .inl ⟨rfl, (List.append_nil _).symm⟩⟩
  | m :: rest, created, store => by
    have hpost := create_recorded target store m.document
    rcases h : ObjectStore.create store target m.document with ⟨⟨e | doc, events⟩, after⟩
    · rw [h] at hpost
      rw [course_cons_error h]
      refine ⟨[], rfl, nofun, .inr ⟨m, e, rfl, rfl, ?_⟩⟩
      rw [List.append_nil]
      rcases hpost with ⟨fault, hresult, hanswers⟩ | ⟨a, hresult, hanswers⟩
      · exact .inl ⟨fault, Except.error.inj hresult, hanswers⟩
      · exact .inr ⟨a, hresult.symm, hanswers⟩
    · rw [h] at hpost
      rw [course_cons_ok h]
      rcases hpost with ⟨fault, hresult, -⟩ | ⟨a, hresult, hanswers⟩
      · cases hresult
      · dsimp only at hanswers
        obtain ⟨hsuccess, hdoc⟩ := Cluster.verdict_eq_ok_iff.mp hresult.symm
        obtain ⟨read, hread, hsuccesses, hend⟩ := course_recorded total rest (created + 1) after
        refine ⟨a :: read, ?_, ?_, ?_⟩
        · rw [List.map_cons, List.map_cons, hdoc, hread]
        · intro b hb
          rcases List.mem_cons.mp hb with rfl | hb
          · exact hsuccess
          · exact hsuccesses b hb
        · simp only [hanswers, List.append_assoc, List.singleton_append] at hend
          simp only [List.append_assoc, List.cons_append]
          rcases hend with hcomplete | ⟨last, cause, hlast, hfailure, hwhy⟩
          · exact .inl hcomplete
          · refine .inr ⟨last, cause, hlast, ?_, hwhy⟩
            rw [hfailure, List.length_cons]
            congr 2
            omega

/-! ## What a batch reports and what its server did -/

/-- A batch from its beginning: the answers that brought documents back, and after them the answer
that ended the batch, if there was one. -/
theorem populate_recorded (client : ClusterClient) (network : ν) (batch : List Manifest) :
    let store : ClusterStore (Recorded ν) := { client, network := { network } }
    let outcome := populate target store batch
    ∃ (read : List Answer) (last : Option Answer),
      outcome.store.network.answers = read ++ last.toList ∧
      (∀ a ∈ read, a.isSuccess = true ∧ Cluster.documentOf? a ≠ none) ∧
      ((last = none ∧ ∃ stored, outcome.result = .ok ⟨batch.length, read.length, stored⟩) ∨
      ∃ m cause, batch[read.length]? = some m ∧
        outcome.result = .error (.aborted read.length batch.length m.name cause) ∧
        ((last = none ∧ ∃ fault, cause = .http fault) ∨
          ∃ a, last = some a ∧ Cluster.verdict target m.document a = .error cause)) := by
  intro store outcome
  obtain ⟨read, hread, hsuccess, hend⟩ := course_recorded target batch.length batch 0 store
  have hlength : (course target batch.length 0 batch store).stored.length = read.length := by
    have := congrArg List.length hread
    rw [List.length_map, List.length_map] at this
    exact this.symm
  have hdocuments : ∀ a ∈ read, a.isSuccess = true ∧ Cluster.documentOf? a ≠ none := by
    intro a ha
    refine ⟨hsuccess a ha, ?_⟩
    have hmem : Cluster.documentOf? a ∈ read.map Cluster.documentOf? :=
      List.mem_map.mpr ⟨a, ha, rfl⟩
    rw [hread] at hmem
    obtain ⟨doc, -, hdoc⟩ := List.mem_map.mp hmem
    rw [← hdoc]
    exact Option.some_ne_none doc
  rw [hlength, Nat.zero_add] at hend
  rcases hend with ⟨hfailure, hanswers⟩ | ⟨m, cause, hm, hfailure, hwhy⟩
  · refine ⟨read, none, ?_, hdocuments,
      .inl ⟨rfl, (course target batch.length 0 batch store).stored, ?_⟩⟩
    · exact hanswers.trans (List.append_nil read).symm
    · simp only [outcome, populate, hfailure, hlength]
  · have hresult : outcome.result =
        .error (.aborted read.length batch.length m.name cause) := by
      simp only [outcome, populate, hfailure]
    rcases hwhy with ⟨fault, hfault, hanswers⟩ | ⟨a, hverdict, hanswers⟩
    · refine ⟨read, none, ?_, hdocuments, .inr ⟨m, cause, hm, hresult, .inl ⟨rfl, fault, hfault⟩⟩⟩
      exact hanswers.trans (List.append_nil read).symm
    · exact ⟨read, some a, hanswers, hdocuments,
        .inr ⟨m, cause, hm, hresult, .inr ⟨a, rfl, hverdict⟩⟩⟩

end Populate

/-- How many documents a batch says it created, whether or not it is complete. -/
def Outcome.created? {σ : Type} (outcome : Outcome σ) : Option Nat :=
  match outcome.result with
  | .ok report => some report.created
  | .error e => e.createdBeforeFailure

namespace Populate

variable {ν : Type} [Network ν] (target : Target)

/-- **A batch counts the documents that it read back.** These are all that the server created, but
for one if the answer about it could not be read; the batch then ends with it. -/
theorem created_counts_answers (client : ClusterClient) (network : ν) (batch : List Manifest) :
    let store : ClusterStore (Recorded ν) := { client, network := { network } }
    let outcome := populate target store batch
    let answers := outcome.store.network.answers
    ∃ created, outcome.created? = some created ∧
      created + answers.countP Cluster.isUnread = answers.countP (·.isSuccess) ∧
      (∀ a ∈ answers.dropLast, Cluster.isUnread a = false) ∧
      ∀ a ∈ answers, Cluster.isUnread a = true → ∃ name,
        outcome.result = .error (.aborted created batch.length name (.http a.bodyFault)) := by
  intro store outcome answers
  obtain ⟨read, last, hanswers, hread, hend⟩ := populate_recorded target client network batch
  have hanswers : answers = read ++ last.toList := hanswers
  have hfine : ∀ a ∈ read, a.isSuccess = true ∧ Cluster.isUnread a = false :=
    fun a ha => ⟨(hread a ha).1, Cluster.isUnread_eq_false (hread a ha).2⟩
  have hcreated : outcome.created? = some read.length := by
    rcases hend with ⟨-, stored, hresult⟩ | ⟨m, cause, -, hresult, -⟩
    · rw [Outcome.created?, hresult]
    · rw [Outcome.created?, hresult]
      rfl
  -- the answer that ended the batch, if there is one, is unread or no success
  have hlast : ∀ a ∈ last, ∃ m doc cause, Cluster.verdict target doc a = .error cause ∧
      outcome.result = .error (.aborted read.length batch.length m cause) := by
    rintro a rfl
    rcases hend with ⟨hnone, -⟩ | ⟨m, cause, -, hresult, ⟨hnone, -⟩ | ⟨b, hb, hverdict⟩⟩
    · cases hnone
    · cases hnone
    · cases hb
      exact ⟨m.name, m.document, cause, hverdict, hresult⟩
  refine ⟨read.length, hcreated, ?_, ?_, ?_⟩
  · rw [hanswers]
    refine Cluster.countP_isSuccess hfine fun a ha => ?_
    obtain ⟨_, _, _, hverdict, _⟩ := hlast a ha
    exact Cluster.isUnread_eq_isSuccess hverdict
  · intro a ha
    rw [hanswers] at ha
    cases last with
    | none =>
      rw [Option.toList_none, List.append_nil] at ha
      exact (hfine a (List.dropLast_subset read ha)).2
    | some b =>
      rw [Option.toList_some, List.dropLast_concat] at ha
      exact (hfine a ha).2
  · intro a ha hunread
    rw [hanswers, List.mem_append, Option.mem_toList] at ha
    rcases ha with ha | ha
    · rw [(hfine a ha).2] at hunread
      cases hunread
    · obtain ⟨name, doc, cause, hverdict, hresult⟩ := hlast a ha
      rcases Cluster.verdict_eq_error hverdict with ⟨-, rfl⟩ | ⟨hrefused, -⟩
      · exact ⟨name, hresult⟩
      · rw [Cluster.isUnread, hrefused] at hunread
        cases hunread

/-- A client of a kiosk. -/
def kioskClient : ClusterClient := { endpoint := "http://kiosk", authorization := none }

/-- A server that gives answers of these statuses, without bodies, and remembers them. -/
def terseServer (statuses : List Nat) : Recorded ScriptedServer where
  network := {
    address := "http://kiosk"
    turns := statuses.map fun status => .answer { status, body := [] } }

/-- The store of a cluster with such a server. -/
def terseStore (statuses : List Nat) : ClusterStore (Recorded ScriptedServer) where
  client := { endpoint := "http://kiosk", authorization := none }
  network := terseServer statuses

/-- A moose of some size. -/
def mooseOf (name : String) : Manifest :=
  .ofMoose "animals.com/v1" "Moose" name "glacier" ⟨1.5, 400.5, true⟩

/-- A document of which the server only says that it created it is not counted. -/
theorem created_omits_unread :
    let outcome := populate {} (terseStore [201]) [mooseOf "milo"]
    outcome.created? = some 0 ∧ outcome.store.network.answers.countP (·.isSuccess) = 1 := by
  constructor <;> decide +kernel

/-- **A refusal ends a batch at the document that it is about, and may pass if its status says
so**: if there were too many requests, or if it is at least 500. -/
theorem refusal_ends_batch (client : ClusterClient) (network : ν) (batch : List Manifest)
    (a : Answer) :
    let store : ClusterStore (Recorded ν) := { client, network := { network } }
    let outcome := populate target store batch
    let answers := outcome.store.network.answers
    answers.getLast? = some a → a.isSuccess = false →
      ∃ before m cause, answers = before ++ [a] ∧ batch[before.length]? = some m ∧
        outcome.result = .error (.aborted before.length batch.length m.name cause) ∧
        ((Error.aborted before.length batch.length m.name cause).isRetryable = true ↔
          a.status = 429 ∨ 500 ≤ a.status) := by
  intro store outcome answers ha hrefused
  obtain ⟨read, last, hanswers, hread, hend⟩ := populate_recorded target client network batch
  have hanswers : answers = read ++ last.toList := hanswers
  cases last with
  | none =>
    rw [hanswers, Option.toList_none, List.append_nil] at ha
    have hsuccess := (hread a (List.mem_of_getLast? ha)).1
    rw [hrefused] at hsuccess
    cases hsuccess
  | some b =>
    rw [hanswers, Option.toList_some, List.getLast?_concat, Option.some.injEq] at ha
    subst ha
    rcases hend with ⟨hnone, -⟩ | ⟨m, cause, hm, hresult, ⟨hnone, -⟩ | ⟨_, hb, hverdict⟩⟩
    · cases hnone
    · cases hnone
    · cases hb
      refine ⟨read, m, cause, hanswers, hm, hresult, ?_⟩
      rcases Cluster.verdict_eq_error hverdict with ⟨hbad, -⟩ | ⟨-, rfl⟩
      · rw [Cluster.isUnread, hrefused] at hbad
        cases hbad
      · exact Cluster.isRetryable_errorOfStatus _ _ _

/-- A server that is overloaded. -/
theorem refusal_ends_batch_of_overload :
    let outcome := populate {} (terseStore [503]) [mooseOf "milo"]
    let answer : Answer := { status := 503, body := [] }
    outcome.store.network.answers.getLast? = some answer ∧ answer.isSuccess = false ∧
      ∃ e, outcome.result = .error e ∧ e.isRetryable = true := by
  intro outcome answer
  have hlast : outcome.store.network.answers.getLast? = some answer := by decide +kernel
  refine ⟨hlast, rfl, ?_⟩
  obtain ⟨before, m, cause, -, -, hresult, hretryable⟩ :=
    refusal_ends_batch {} _ _ [mooseOf "milo"] answer hlast rfl
  exact ⟨_, hresult, hretryable.mpr (.inr (by decide))⟩

/-- A status beyond those of servers at fault counts as one of them. -/
theorem refusal_retryable_beyond_server_faults :
    let outcome := populate {} (terseStore [600]) [mooseOf "milo"]
    outcome.store.network.answers.map (·.status) = [600] ∧
      (match outcome.result with
        | .ok _ => false
        | .error e => e.isRetryable) = true ∧
      ¬ (600 = 429 ∨ 500 ≤ 600 ∧ 600 ≤ 599) := by
  refine ⟨?_, ?_, ?_⟩
  · decide +kernel
  · decide +kernel
  · decide

end Populate

end MooseHerd
