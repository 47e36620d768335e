import MooseHerd.Error
import MooseHerd.Herd
import MooseHerd.Log.Layout
import MooseHerd.Target
import MooseHerd.Text.Letters
import MooseHerd.Text.Property.WhiteSpace

/-! The settings of the program. -/

namespace MooseHerd

structure ClusterSettings where
  endpoint : String := "https://127.0.0.1:6443"
  /-- The bearer token; it goes before the file. -/
  token : Option String := none
  /-- The file that holds the bearer token. -/
  tokenFile : Option String := none
  /-- A file with a further trusted certificate. -/
  caCertFile : Option String := none
  insecureSkipTlsVerify : Bool := false
  space : String := "default"
  timeoutSeconds : Nat := 30
  deriving Repr, BEq, DecidableEq, Inhabited

/-- The type of the resources. -/
structure ResourceSettings where
  group : String := "animals.com"
  version : String := "v1"
  plural : String := "mooses"
  kind : String := "Moose"
  deriving Repr, BEq, DecidableEq, Inhabited

structure GeneratorSettings where
  letter : String := "M"
  maxNameAttempts : Nat := 100000
  seed : Option UInt64 := none
  park : String := "glacier"
  deriving Repr, BEq, DecidableEq, Inhabited

/-- What is reported, and in which form. -/
structure ReportSettings where
  logLevel : String := "info"
  logFormat : String := "pretty"
  deriving Repr, BEq, DecidableEq, Inhabited

structure Settings where
  cluster : ClusterSettings := {}
  resource : ResourceSettings := {}
  generator : GeneratorSettings := {}
  observability : ReportSettings := {}
  deriving Repr, BEq, DecidableEq, Inhabited

/-- The bearer token: the one given as text, else the content of its file, without white space
around it. -/
def ClusterSettings.bearerToken (c : ClusterSettings) (files : Files.Reader) :
    Except Error (Option String) :=
  match c.token, c.tokenFile with
  | some token, _ => .ok (some (Text.trim token))
  | none, some path =>
    match Files.readText files path with
    | .ok content => .ok (some (Text.trim content))
    | .error fault => .error (.unreadable path fault)
  | none, none => .ok none

def ResourceSettings.apiVersion (r : ResourceSettings) : String := r.group ++ "/" ++ r.version

/-- The letter that names begin with: the only character of its text, if it is alphabetic. -/
def GeneratorSettings.designatedLetter (g : GeneratorSettings) : Except Error Char :=
  match g.letter.toList with
  | [c] => if Text.isAlphabetic c then .ok c else refused
  | _ => refused
where
  refused := .error (.invalidArgument "generator.letter" ("必须是单个字母, 实际为 '" ++ g.letter ++ "'"))

/-- The form of log lines, if it is a known one. -/
def ReportSettings.layout? (r : ReportSettings) : Except Error Log.Layout :=
  if r.logFormat = "pretty" then .ok .plain
  else if r.logFormat = "json" then .ok .document
  else .error (.invalidArgument "observability.log_format"
    ("仅支持 pretty 或 json, 实际为 '" ++ r.logFormat ++ "'"))

namespace Settings

def isBlank (s : String) : Bool := (Text.trim s).isEmpty

/-- Checks what the types of the fields do not say. -/
def validate (s : Settings) : Except Error Unit := do
  let _ ← s.generator.designatedLetter
  if s.generator.maxNameAttempts = 0 then
    throw (.invalidArgument "generator.max_name_attempts" "必须大于 0")
  if isBlank s.cluster.endpoint then
    throw (.invalidArgument "cluster.endpoint" "不能为空")
  if isBlank s.cluster.space then
    throw (.invalidArgument "cluster.namespace" "不能为空")
  let _ ← s.observability.layout?

/-- The collection that the moose go to. -/
def target (s : Settings) : Target where
  space := s.cluster.space
  group := s.resource.group
  version := s.resource.version
  plural := s.resource.plural

def herdPlan (s : Settings) : Except Error HerdPlan := do
  return {
    letter := ← s.generator.designatedLetter
    maxAttempts := s.generator.maxNameAttempts
    seed := s.generator.seed
    apiVersion := s.resource.apiVersion
    kind := s.resource.kind
    park := s.generator.park }

end Settings

end MooseHerd
