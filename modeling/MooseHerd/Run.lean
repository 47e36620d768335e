import MooseHerd.Http.Exchange
import MooseHerd.Populate
import MooseHerd.Store.Cluster
import MooseHerd.Store.Memory

/-! A run of the program: a batch of moose is made and handed to a store, and what the store keeps
is printed. -/

namespace MooseHerd

open MooseHerd.Random Http

/-- An error together with what was being done. -/
structure Setback where
  context : Option String
  cause : Error
  deriving Repr, BEq, Inhabited

namespace Setback

/-- The messages from the outermost to the innermost. -/
def messages (s : Setback) : List String :=
  s.context.toList ++ s.cause.message :: s.cause.causes

/-- A message whose lines after the first are indented like the first. -/
def indented (start : String) (message : String) : String :=
  let blank := String.ofList (List.replicate start.length ' ')
  start ++ Text.join ("\n" ++ blank) (Text.split '\n' message)

/-- The first message, and those behind it as a list; a list of one is not numbered. -/
def text (s : Setback) : String :=
  match s.messages with
  | [] => ""
  | [first] => first
  | [first, second] => first ++ "\n\nCaused by:\n" ++ indented "    " second
  | first :: causes =>
    first ++ "\n\nCaused by:\n" ++ Text.join "\n" (causes.zipIdx.map fun (message, i) =>
      let number := toString i
      indented (String.ofList (List.replicate (5 - number.length) ' ') ++ number ++ ": ") message)

end Setback

/-- A run: how it ended, what happened until then, and the store that is left if there was one. -/
structure Run (σ : Type) where
  result : Except Setback Report
  steps : List Step
  store : σ

namespace Run

def reportTarget : String := "moose_generator::cli::runner"

def startEvent (target : Target) (count : Nat) : Log.Event where
  level := .info
  target := reportTarget
  message := "开始生成 Moose"
  fields := [("count", .count count), ("namespace", .shown target.space),
    ("group", .shown target.group), ("version", .shown target.version),
    ("plural", .shown target.plural)]

/-- The hint that the run may succeed later. -/
def retryEvent (e : Error) : Log.Event where
  level := .warn
  target := reportTarget
  message := "失败原因为瞬时故障，可稍后重新执行"
  fields := [("code", .text e.code)]

def dryRunEvent : Log.Event where
  level := .info
  target := reportTarget
  message := "dry-run 模式，资源只写入内存存储"

def clientEvent (c : ClusterSettings) : Log.Event where
  level := .info
  target := reportTarget
  message := "已创建集群客户端"
  fields := [("endpoint", .shown c.endpoint)]

/-- Makes a batch by the settings, from the names in use in English. -/
def herd (plan : HerdPlan) (provided : ChaChaStream) (count : Nat) : Except Error Herd :=
  (Herd.make plan count (Names.NamePool.english, plan.words provided)).1

def handOver {σ : Type} [ObjectStore σ] (target : Target) (store : σ) (batch : List Manifest) :
    Run σ :=
  let outcome := populate target store batch
  match outcome.result with
  | .ok report => { result := .ok report, steps := outcome.steps, store := outcome.store }
  | .error e =>
    { result := .error ⟨some "创建 Moose 失败", e⟩
      steps := outcome.steps ++ if e.isRetryable then [.reported (retryEvent e)] else []
      store := outcome.store }

def withStore {σ : Type} [ObjectStore σ] (settings : Settings) (provided : ChaChaStream)
    (store : σ) (count : Nat) : Run σ :=
  let start := .reported (startEvent settings.target count)
  match settings.herdPlan with
  | .error e => { result := .error ⟨some "生成器配置无效", e⟩, steps := [start], store }
  | .ok plan =>
    match Traits.check with
    | .error e => { result := .error ⟨none, e⟩, steps := [start], store }
    | .ok () =>
      match herd plan provided count with
      | .error e => { result := .error ⟨some "生成 Moose 失败", e⟩, steps := [start], store }
      | .ok herd =>
        let run := handOver settings.target store (herd.manifests plan)
        { run with steps := start :: (herd.events plan).map .reported ++ run.steps }

/-- The same run with what happened before it. -/
def after {σ τ : Type} (steps : List Step) (keep : σ → τ) (run : Run σ) : Run τ :=
  { result := run.result, steps := steps ++ run.steps, store := keep run.store }

/-- The stores that a run may make for itself: one in memory, or that of a cluster. -/
inductive Destination (ν : Type) where
  | memory (store : MemoryStore)
  | cluster (store : ClusterStore ν)
  /-- There is none, and the network is as it was. -/
  | none (network : ν)

/-- What the surroundings of a run provide. -/
structure Surroundings (ν : Type) where
  files : Files.Reader
  network : ν
  /-- What a store in memory adds to its documents. -/
  stamps : Nat → Stamp
  /-- Random words for settings without a seed. -/
  words : ChaChaStream
  /-- The time that reports tell, if they tell one. -/
  time : Option String := none

/-- Runs with a store of its own: in memory for a dry run, else that of the cluster. -/
def start {ν : Type} [Network ν] (settings : Settings) (around : Surroundings ν) (dryRun : Bool)
    (count : Nat) : Run (Destination ν) :=
  if dryRun then
    (withStore settings around.words { stamps := around.stamps : MemoryStore } count).after
      [.reported dryRunEvent] .memory
  else match ClusterClient.ofSettings settings.cluster around.files with
    | (.error e, events) =>
      { result := .error ⟨some "创建集群客户端失败", e⟩
        steps := events.map .reported
        store := .none around.network }
    | (.ok client, events) =>
      let store : ClusterStore ν := { client, network := around.network }
      (withStore settings around.words store count).after
        ((events ++ [clientEvent settings.cluster]).map .reported) .cluster

def rule : String := String.ofList (List.replicate 30 '-') ++ "\n"

def summary (space : String) (report : Report) : String :=
  "\nMoose 创建完成:\n" ++ rule ++
    "请求数量: " ++ toString report.requested ++ "\n" ++
    "创建数量: " ++ toString report.created ++ "\n" ++
    "命名空间: " ++ space ++ "\n" ++ rule

/-- What is printed: every document that came back, and a summary if all did. -/
def output {σ : Type} (settings : Settings) (run : Run σ) : String :=
  String.join ((Step.documents run.steps).map fun doc => doc.pretty ++ "\n") ++
    match run.result with
    | .ok report => summary settings.target.space report
    | .error _ => ""

end Run

end MooseHerd
