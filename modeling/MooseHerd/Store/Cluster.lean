import MooseHerd.Http.Certificate
import MooseHerd.Http.Credentials
import MooseHerd.Http.Exchange
import MooseHerd.Json.Printer
import MooseHerd.Json.Schema
import MooseHerd.Settings.Basic
import MooseHerd.Store.Basic

/-! The store of a cluster, reached over the network. Every document is posted to the address of its
collection; a refusal is sorted by its status and told in the words of the server. -/

namespace MooseHerd

/-- How requests to a cluster are made. -/
structure ClusterClient where
  /-- The address of the cluster, without slashes at its end. -/
  endpoint : String
  /-- What requests carry to show who sends them. -/
  authorization : Option String
  deriving Repr, BEq, DecidableEq, Inhabited

namespace ClusterClient

def reportTarget : String := "moose_generator::store::kube_api"

def dropSlashes (s : String) : String :=
  String.ofList (s.toList.reverse.dropWhile (· = '/')).reverse

/-- Whether a text can be sent as the value of a header: it has no control characters but tabs. -/
def isHeaderText (s : String) : Bool :=
  s.toList.all fun c => c = '\t' || (0x20 ≤ c.toNat && c.toNat ≠ 0x7f)

/-- The file with a further certificate must be there and hold one. -/
def checkCertificate (c : ClusterSettings) (files : Files.Reader) : Except Error Unit :=
  match c.caCertFile with
  | none => .ok ()
  | some path =>
    match files path with
    | .error fault => .error (.unreadable path fault)
    | .ok content => if Http.Certificate.isIn content then .ok () else .error (.http .unsendable)

/-- The value that shows who sends a request. -/
def authorizationOf (c : ClusterSettings) (files : Files.Reader) :
    Except Error (Option String) := do
  match ← c.bearerToken files with
  | none => .ok none
  | some token =>
    if isHeaderText token then .ok (some ("Bearer " ++ token))
    else .error (.invalidArgument "cluster.token" "failed to parse header value")

/-- The warning that servers are not asked for their certificates. -/
def insecureEvent (c : ClusterSettings) : Log.Event where
  level := .warn
  target := reportTarget
  message := "已关闭 TLS 证书校验"
  fields := [("endpoint", .shown c.endpoint)]

/-- The client for the settings of a cluster, with the reports on the way to it. -/
def ofSettings (c : ClusterSettings) (files : Files.Reader) :
    Except Error ClusterClient × List Log.Event :=
  match checkCertificate c files with
  | .error e => (.error e, [])
  | .ok () =>
    let events := if c.insecureSkipTlsVerify then [insecureEvent c] else []
    match authorizationOf c files with
    | .error e => (.error e, events)
    | .ok authorization => (.ok { endpoint := dropSlashes c.endpoint, authorization }, events)

def collectionUrl (client : ClusterClient) (target : Target) : String :=
  client.endpoint ++ target.collectionPath

/-- The request that asks for a document to be created, if the address of the collection is one.
Where the address itself says who asks, that goes before the token. -/
def request? (client : ClusterClient) (target : Target) (doc : Json) : Option Http.Request := do
  let url ← Http.Url.parse? (client.collectionUrl target)
  return {
    url
    authorization := (url.user.map Http.User.authorization).or client.authorization
    contentType := "application/json"
    body := doc.compact }

end ClusterClient

namespace Cluster

structure Refusal where
  message : Option String := none
  reason : Option String := none

/-- The shape in which servers tell about a refusal. -/
def refusalSchema : Json.Schema :=
  .record "ApiStatus" [("message", .optional .text), ("reason", .optional .text)]

/-- Reads what a server says. A body of another shape says nothing. -/
def Refusal.ofBody (body : String) : Refusal :=
  match refusalSchema.parse body with
  | .ok doc => { message := (doc.member? "message").bind Json.string?
                 reason := (doc.member? "reason").bind Json.string? }
  | .error _ => {}

/-- The words of the server: its message, else its reason, else the whole body. -/
def refusalText (body : String) : String :=
  let refusal := Refusal.ofBody body
  match refusal.message, refusal.reason with
  | some message, _ => message
  | none, some reason => reason
  | none, none => Text.trim body

def errorOfStatus (status : Nat) (body : String) (target : Target) (name : String) : Error :=
  let text := refusalText body
  if status = 409 then .alreadyExists target.resourceType name
  else if status = 401 then .unauthorized
  else if status = 403 then
    .forbidden
      ("create " ++ target.resourceType ++ " in namespace " ++ target.space ++ ": " ++ text)
  else if status = 404 then
    .notFound (target.resourceType ++ "/" ++ target.version ++ " in namespace " ++ target.space)
  else if status = 400 ∨ status = 422 then .validation text
  else .service status text

/-- The name by which reports and errors call a document. -/
def shownName (doc : Json) : String := (documentName? doc).getD "<unnamed>"

def createdEvent (url name : String) (status : Nat) : Log.Event where
  level := .debug
  target := ClusterClient.reportTarget
  message := "资源已创建"
  fields := [("url", .shown url), ("name", .text name), ("status", .count status)]

def unreadableEvent (url name : String) (status : Nat) (fault : Http.Fault) : Log.Event where
  level := .warn
  target := ClusterClient.reportTarget
  message := "读取错误响应体失败"
  fields := [("url", .shown url), ("name", .text name), ("status", .count status),
    ("error", .shown fault.message)]

def documentOf? (a : Http.Answer) : Option Json := do
  match Json.parse (← Text.Utf8.decode? (← a.bytes?)) with
  | .ok doc => some doc
  | .error _ => none

/-- What an answer means for the document that was posted to an address. -/
def replyOf (url : String) (target : Target) (doc : Json) (a : Http.Answer) : Reply :=
  let name := shownName doc
  if a.isSuccess then
    { result := match documentOf? a with
        | some stored => .ok stored
        | none => .error (.http a.bodyFault)
      events := [createdEvent url name a.status] }
  else match a.text? with
    | some body => { result := .error (errorOfStatus a.status body target name) }
    | none =>
      { result := .error (errorOfStatus a.status "" target name)
        events := [unreadableEvent url name a.status a.bodyFault] }

/-- What comes of a document that was posted to an address. -/
def replyTo (url : String) (target : Target) (doc : Json) : Except Http.Fault Http.Answer → Reply
  | .error fault => { result := .error (.http fault) }
  | .ok answer => replyOf url target doc answer

end Cluster

/-- The store of a cluster: a client and the network that it uses. -/
structure ClusterStore (ν : Type) where
  client : ClusterClient
  network : ν

namespace ClusterStore

open Http

def create {ν : Type} [Network ν] (store : ClusterStore ν) (target : Target) (doc : Json) :
    Reply × ClusterStore ν :=
  match store.client.request? target doc with
  | none => ({ result := .error (.http .unsendable) }, store)
  | some request =>
    let (result, network) := Network.exchange store.network request
    let reply := Cluster.replyTo (store.client.collectionUrl target) target doc result
    (reply.after (Network.reports store.network request.outline), { store with network })

instance {ν : Type} [Network ν] : ObjectStore (ClusterStore ν) := ⟨create⟩

end ClusterStore

end MooseHerd
