import MooseHerd.Proofs.Json.Schema
import MooseHerd.Proofs.Populate.Cluster
import MooseHerd.Proofs.Text.WhiteSpace

/-! # Refusals of a cluster

The status of an answer decides what kind of error a refusal is. The body gives the words of some of
these errors and nothing else, whatever the server puts into it. -/

namespace MooseHerd

open Http

namespace Cluster

/-! ## The words of a server -/

/-- How the body of a refusal comes to the words that are told: by its message, by its reason if it
has no message, or as a whole. -/
inductive Tells (body : String) : String → Prop
  | message {doc : Json} {text : String} (hdoc : refusalSchema.parse body = .ok doc)
      (hmessage : doc.member? "message" = some (.string text)) : Tells body text
  | reason {doc : Json} {text : String} (hdoc : refusalSchema.parse body = .ok doc)
      (hmessage : doc.member? "message" = some .null)
      (hreason : doc.member? "reason" = some (.string text)) : Tells body text
  | silent {doc : Json} {text : String} (hdoc : refusalSchema.parse body = .ok doc)
      (hmessage : doc.member? "message" = some .null) (hreason : doc.member? "reason" = some .null)
      (htext : Text.IsTrimmed body text) : Tells body text
  | unread {fault : Json.Fault} {text : String} (hdoc : refusalSchema.parse body = .error fault)
      (htext : Text.IsTrimmed body text) : Tells body text

theorem isProper_refusalSchema : refusalSchema.IsProper := by
  refine .record (by decide) fun field hfield => ?_
  rcases List.mem_pair.mp hfield with rfl | rfl
  · exact .optional .text
  · exact .optional .text

/-- A body that is read has a message and a reason, each of them a text or `null`. -/
theorem exists_refusal_of_parse {body : String} {doc : Json}
    (h : refusalSchema.parse body = .ok doc) :
    ∃ refusal : Refusal, doc.member? "message" = some (refusal.message.elim .null .string) ∧
      doc.member? "reason" = some (refusal.reason.elim .null .string) := by
  have hmembers := (Json.fits_of_parse isProper_refusalSchema h).members
  simp only [List.forall_mem_cons] at hmembers
  obtain ⟨⟨message, hmessage, hmessageFits⟩, ⟨reason, hreason, hreasonFits⟩, -⟩ := hmembers
  obtain ⟨message, rfl⟩ := hmessageFits.exists_text
  obtain ⟨reason, rfl⟩ := hreasonFits.exists_text
  exact ⟨{ message, reason }, hmessage, hreason⟩

/-- Every body tells something, and nothing else than what the error says. -/
theorem tells_iff {body text : String} : Tells body text ↔ text = refusalText body := by
  constructor
  · rintro (⟨hdoc, hmessage⟩ | ⟨hdoc, hmessage, hreason⟩ | ⟨hdoc, hmessage, hreason, htext⟩ |
      ⟨hdoc, htext⟩)
    · simp only [refusalText, Refusal.ofBody, hdoc, hmessage, Option.bind_some, Json.string?]
    · simp only [refusalText, Refusal.ofBody, hdoc, hmessage, hreason, Option.bind_some,
        Json.string?]
    · simp only [refusalText, Refusal.ofBody, hdoc, hmessage, hreason, Option.bind_some,
        Json.string?, Text.isTrimmed_iff.mp htext]
    · simp only [refusalText, Refusal.ofBody, hdoc, Text.isTrimmed_iff.mp htext]
  · rintro rfl
    cases hdoc : refusalSchema.parse body with
    | error fault =>
      simp only [refusalText, Refusal.ofBody, hdoc]
      exact .unread hdoc (Text.isTrimmed_trim body)
    | ok doc =>
      obtain ⟨⟨message, reason⟩, hmessage, hreason⟩ := exists_refusal_of_parse hdoc
      cases message with
      | some message =>
        simp only [refusalText, Refusal.ofBody, hdoc, hmessage, Option.elim, Option.bind_some,
          Json.string?]
        exact .message hdoc hmessage
      | none =>
        cases reason with
        | some reason =>
          simp only [refusalText, Refusal.ofBody, hdoc, hmessage, hreason, Option.elim,
            Option.bind_some, Json.string?]
          exact .reason hdoc hmessage hreason
        | none =>
          simp only [refusalText, Refusal.ofBody, hdoc, hmessage, hreason, Option.elim,
            Option.bind_some, Json.string?]
          exact .silent hdoc hmessage hreason (Text.isTrimmed_trim body)

/-! ## The error of a refusal -/

/-- The error with the words of a server that refuses, if its status has no error without words. -/
def wordedError (status : Nat) (target : Target) (text : String) : Error :=
  if status = 403 then
    .forbidden
      ("create " ++ target.resourceType ++ " in namespace " ++ target.space ++ ": " ++ text)
  else if status = 400 ∨ status = 422 then .validation text
  else .service status text

variable {target : Target} {status : Nat}

theorem errorOfStatus_of_mem (h : status ∈ [401, 404, 409]) (body body' name : String) :
    errorOfStatus status body target name = errorOfStatus status body' target name := by
  have hstatus : status = 401 ∨ status = 404 ∨ status = 409 := by simpa using h
  rcases hstatus with rfl | rfl | rfl <;> rfl

theorem errorOfStatus_of_notMem (h : status ∉ [401, 404, 409]) (body name : String) :
    errorOfStatus status body target name = wordedError status target (refusalText body) := by
  have hstatus : status ≠ 401 ∧ status ≠ 404 ∧ status ≠ 409 := by simpa using h
  obtain ⟨h401, h404, h409⟩ := hstatus
  simp only [errorOfStatus, wordedError, if_neg h401, if_neg h404, if_neg h409]

/-- Two errors of one variant and with one code, which both may pass or both do not. -/
structure SameKind (e e' : Error) : Prop where
  variant : e.ctorIdx = e'.ctorIdx
  code : e.code = e'.code
  isRetryable : e.isRetryable = e'.isRetryable

theorem sameKind_wordedError (text text' : String) :
    SameKind (wordedError status target text) (wordedError status target text') := by
  unfold wordedError
  split
  · exact ⟨rfl, rfl, rfl⟩
  · split <;> exact ⟨rfl, rfl, rfl⟩

theorem sameKind_errorOfStatus (body body' name : String) :
    SameKind (errorOfStatus status body target name) (errorOfStatus status body' target name) := by
  by_cases h : status ∈ [401, 404, 409]
  · rw [errorOfStatus_of_mem h body body']
    exact ⟨rfl, rfl, rfl⟩
  · rw [errorOfStatus_of_notMem h, errorOfStatus_of_notMem h]
    exact sameKind_wordedError _ _

end Cluster

/-! ## A document that is refused -/

/-- A store posts a document and gets this answer. -/
def ClusterStore.Answered {ν : Type} [Network ν] (store : ClusterStore ν) (target : Target)
    (doc : Json) (a : Answer) : Prop :=
  ∃ request next, store.client.request? target doc = some request ∧
    Network.exchange store.network request = (.ok a, next)

namespace ClusterStore

variable {ν ν' : Type} [Network ν] [Network ν'] {store : ClusterStore ν} {store' : ClusterStore ν'}
  {target : Target} {doc : Json} {a a' : Answer}

/-- A refusal is an error. The words that it is made of are those of an empty body if the body did
not come as a whole. -/
theorem Answered.result_of_refused (h : store.Answered target doc a)
    (hrefused : a.isSuccess = false) :
    (ObjectStore.create store target doc).1.result =
      .error (Cluster.errorOfStatus a.status (a.text?.getD "") target (Cluster.shownName doc)) := by
  obtain ⟨request, next, hrequest, hexchange⟩ := h
  rw [(create_of_exchange hrequest hexchange).1, Cluster.verdict, hrefused,
    if_neg Bool.false_ne_true]

/-- **The body of a refusal does not change what kind of error it is.** Two refusals of a document
with one status are errors of one kind, and the same error for the statuses that have no words. For
the others the body tells the words; a body that did not come as a whole counts as empty. -/
theorem refusal_sorted_by_status (h : store.Answered target doc a)
    (h' : store'.Answered target doc a') (hstatus : a'.status = a.status)
    (hrefused : a.isSuccess = false) :
    ∃ e e', (ObjectStore.create store target doc).1.result = .error e ∧
      (ObjectStore.create store' target doc).1.result = .error e' ∧
      Cluster.SameKind e e' ∧
      (a.status ∈ [401, 404, 409] → e = e') ∧
      (a.status ∉ [401, 404, 409] → ∃ text text',
        Cluster.Tells (a.text?.getD "") text ∧ Cluster.Tells (a'.text?.getD "") text' ∧
        e = Cluster.wordedError a.status target text ∧
        e' = Cluster.wordedError a.status target text') := by
  have hrefused' : a'.isSuccess = false := by rwa [Answer.isSuccess, hstatus]
  refine ⟨_, _, h.result_of_refused hrefused, h'.result_of_refused hrefused', ?_, ?_, ?_⟩
  · rw [hstatus]
    exact Cluster.sameKind_errorOfStatus _ _ _
  · intro hwordless
    rw [hstatus]
    exact Cluster.errorOfStatus_of_mem hwordless _ _ _
  · intro hworded
    rw [hstatus]
    exact ⟨_, _, Cluster.tells_iff.mpr rfl, Cluster.tells_iff.mpr rfl,
      Cluster.errorOfStatus_of_notMem hworded _ _, Cluster.errorOfStatus_of_notMem hworded _ _⟩

/-- The store of a cluster with a server that answers once. -/
def storeAnswering (a : Answer) : ClusterStore ScriptedServer where
  client := Populate.kioskClient
  network := { address := "http://kiosk", turns := [.answer a] }

theorem answered_storeAnswering {a : Answer} (ha : ScriptedServer.delivered a = .ok a)
    (doc : Json) : (storeAnswering a).Answered {} doc a := by
  have haddress : (Url.parse? (Populate.kioskClient.collectionUrl {})).map (·.server) =
      some "http://kiosk" := by decide +kernel
  obtain ⟨url, hurl, hserver⟩ := Option.map_eq_some_iff.mp haddress
  let request : Http.Request :=
    { url, authorization := (url.user.map User.authorization).or none
      contentType := "application/json", body := doc.compact }
  refine ⟨request, { address := "http://kiosk", requests := [request] }, ?_, ?_⟩
  · rw [ClusterClient.request?, storeAnswering, hurl]
    rfl
  · simp only [Network.exchange, ScriptedServer.exchange, storeAnswering, request, hserver, ha]
    rfl

/-- An overloaded server that gives a reason, and one whose answer breaks off. -/
theorem refusal_sorted_by_status_of_overload :
    let reasoned : Answer := {
      status := 503
      body := Text.Utf8.encode "\x7b\"message\":null,\"reason\":\" overloaded \"\x7d" }
    let broken : Answer := {
      status := 503
      body := Text.Utf8.encode "\x7b\"message\":"
      complete := false }
    let doc := (Populate.mooseOf "milo").document
    (storeAnswering reasoned).Answered {} doc reasoned ∧
      (storeAnswering broken).Answered {} doc broken ∧
      broken.status = reasoned.status ∧ reasoned.isSuccess = false ∧
      ∃ e e', (ObjectStore.create (storeAnswering reasoned) {} doc).1.result = .error e ∧
        (ObjectStore.create (storeAnswering broken) {} doc).1.result = .error e' ∧
        Cluster.SameKind e e' ∧ e = .service 503 " overloaded " ∧ e' = .service 503 "" := by
  intro reasoned broken doc
  have hreasoned : (storeAnswering reasoned).Answered {} doc reasoned :=
    answered_storeAnswering rfl doc
  have hbroken : (storeAnswering broken).Answered {} doc broken := answered_storeAnswering rfl doc
  obtain ⟨e, e', he, he', hkind, -, hworded⟩ :=
    refusal_sorted_by_status hreasoned hbroken rfl rfl
  obtain ⟨text, text', htext, htext', hservice, hservice'⟩ := hworded (by decide)
  have hwords : Cluster.refusalText (reasoned.text?.getD "") = " overloaded " := by decide +kernel
  have hnothing : Cluster.refusalText (broken.text?.getD "") = "" := by decide +kernel
  rw [Cluster.tells_iff.mp htext, hwords] at hservice
  rw [Cluster.tells_iff.mp htext', hnothing] at hservice'
  exact ⟨hreasoned, hbroken, rfl, rfl, e, e', he, he', hkind, hservice, hservice'⟩

end ClusterStore

end MooseHerd
