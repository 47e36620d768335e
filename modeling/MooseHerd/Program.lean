import MooseHerd.CommandLine.Basic
import MooseHerd.Log.Collector
import MooseHerd.Run
import MooseHerd.Settings.Layers

/-! The program as a function of its arguments and surroundings. -/

namespace MooseHerd.Program

open Http Run

/-- What the program leaves behind. -/
structure Ending (ν : Type) where
  exitCode : Nat
  output : String := ""
  /-- The reports that are written, line by line. -/
  reports : List String := []
  /-- What is written about the failure, if there is one. -/
  failure : Option String := none
  /-- The network, if the program came to use it. -/
  network : Option ν := none

def Ending.ofStop {ν : Type} : CommandLine.Stop → Ending ν
  | .help long =>
    { exitCode := 0
      output := if long then CommandLine.longHelp else CommandLine.shortHelp }
  | .version => { exitCode := 0, output := CommandLine.versionText }
  | .misuse m => { exitCode := 2, failure := some m.message }

def Ending.ofSetback {ν : Type} (s : Setback) : Ending ν :=
  { exitCode := 1, failure := some ("Error: " ++ s.text) }

/-- Where reports go by the settings and the environment. -/
def collector (settings : Settings) (env : Settings.Environment) (time : Option String) :
    Log.Collector where
  filter := .choose (env.lookup "RUST_LOG") settings.observability.logLevel
  layout := match settings.observability.layout? with
    | .ok layout => layout
    | .error _ => .plain
  time := time

def networkOf {ν : Type} : Destination ν → Option ν
  | .memory _ => none
  | .cluster store => some store.network
  | .none network => some network

def runWith {ν : Type} [Network ν] (settings : Settings) (env : Settings.Environment)
    (around : Surroundings ν) (dryRun : Bool) (count : Nat) : Ending ν :=
  let run := Run.start settings around dryRun count
  { exitCode := match run.result with
      | .ok _ => 0
      | .error _ => 1
    output := run.output settings
    reports := (collector settings env around.time).lines (Step.events run.steps)
    failure := match run.result with
      | .ok _ => none
      | .error s => some ("Error: " ++ s.text)
    network := networkOf run.store }

def settingsFor (files : Files.Reader) (env : Settings.Environment)
    (i : CommandLine.Invocation) : Except Setback Settings :=
  match Settings.load files env i.configDir with
  | .ok settings => .ok (i.override settings)
  | .error e => .error ⟨some ("加载配置失败: " ++ i.configDir), e⟩

def run {ν : Type} [Network ν] (args : List String) (env : Settings.Environment)
    (around : Surroundings ν) : Ending ν :=
  match CommandLine.parse args with
  | .error stop => .ofStop stop
  | .ok i =>
    match settingsFor around.files env i with
    | .error s => .ofSetback s
    | .ok settings => runWith settings env around i.dryRun i.count

end MooseHerd.Program
