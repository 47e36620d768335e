import MooseHerd.Settings.Decode
import MooseHerd.Toml.Document

/-! Where settings come from: files in a directory and the environment. -/

namespace MooseHerd.Settings

/-- Named values that are laid over those of the layers before. -/
abbrev Layer := List (String × Value)

/-! ### Files -/

mutual

def ofToml (origin : Option String) : Toml → Value
  | .text s | .moment s => .scalar (.text s) origin
  | .whole n => .scalar (.whole n) origin
  | .real x => .scalar (.real x) origin
  | .flag b => .scalar (.flag b) origin
  | .array items => .list (ofTomlItems origin items) origin
  | .table members => .table (ofTomlMembers origin members) origin

def ofTomlItems (origin : Option String) : List Toml → List Value
  | [] => []
  | item :: rest => ofToml origin item :: ofTomlItems origin rest

def ofTomlMembers (origin : Option String) : List (String × Toml) → List (String × Value)
  | [] => []
  | (name, v) :: rest => (name, ofToml origin v) :: ofTomlMembers origin rest

end

mutual

def ofJson (origin : Option String) : Json → Value
  | .null => .scalar .nothing origin
  | .bool b => .scalar (.flag b) origin
  | .number (.whole n) =>
    .scalar (if Decimal.isInt64 n then .whole n else .real (Json.Number.toFloat (.whole n))) origin
  | .number (.real x) => .scalar (.real x) origin
  | .string s => .scalar (.text s) origin
  | .array items => .list (ofJsonItems origin items) origin
  | .object members => .table (ofJsonMembers origin members) origin

def ofJsonItems (origin : Option String) : List Json → List Value
  | [] => []
  | item :: rest => ofJson origin item :: ofJsonItems origin rest

def ofJsonMembers (origin : Option String) : List (String × Json) → List (String × Value)
  | [] => []
  | (name, v) :: rest => (name, ofJson origin v) :: ofJsonMembers origin rest

end

inductive Language where
  | toml
  | json
  deriving Repr, DecidableEq

def layerOfText (language : Language) (origin : Option String) (text : String) :
    Except Fault Layer :=
  match language with
  | .toml => match Toml.parse? text with
    | some members => .ok (ofTomlMembers origin members)
    | none => .error (.unparsable "malformed settings file")
  | .json => match Json.parse text with
    | .ok (.object members) => .ok (ofJsonMembers origin members)
    | _ => .error (.unparsable "malformed settings file")

/-- Files that may stand for `path`: the file itself and those with the name of a language added. -/
def candidates (path : String) : List (String × Language) :=
  [(path, .toml), (path ++ ".toml", .toml), (path ++ ".json", .json)]

/-- Whether a path ends in a name with something before its last dot. -/
def hasExtension (path : String) : Bool :=
  match ((FileTree.components path).getLastD "").toList.reverse.dropWhile (· ≠ '.') with
  | _ :: _ :: _ => true
  | _ => false

/-- A path without components that lead nowhere else. -/
def tidyPath (path : String) : String :=
  Text.join "/" ((FileTree.components path).filter (!FileTree.isIdle ·))

/-- The layer of a settings file. A missing file is an empty layer. Bytes that are no text are
replaced. -/
def layerOfFile (files : Files.Reader) (path : String) : Except Fault Layer :=
  let found := (candidates path).findSome? fun (path, language) =>
    match files path with
    | .ok bytes => some (path, language, bytes)
    | .error _ => none
  match found with
  | none => .ok []
  | some (found, language, bytes) =>
    if found = path ∧ !hasExtension path then .ok []
    else layerOfText language (some (tidyPath found))
      (Text.Utf8.decodeLossy (Text.Utf8.dropMark bytes))

/-! ### The environment -/

def variableStart : List Char := "moose_".toList

def withDots : List Char → List Char
  | '_' :: '_' :: rest => '.' :: withDots rest
  | c :: rest => c :: withDots rest
  | [] => []

/-- The key that a variable sets, if it is one with settings. -/
def variableKey? (name : String) : Option String :=
  let cs := (Text.lowercase name).toList
  if variableStart.isPrefixOf cs then
    some (String.ofList (withDots (cs.drop variableStart.length)))
  else none

/-- The value of a variable: a truth value or a number if it reads as one, else the text. -/
def variableScalar (s : String) : Scalar :=
  let word := Text.lowercase s
  if word = "true" then .flag true
  else if word = "false" then .flag false
  else match (Decimal.integer? s).filter Decimal.isInt64, Decimal.real? s with
    | some n, _ => .whole n
    | none, some x => .real x
    | none, none => .text s

abbrev Environment := List (String × String)

/-- The layer of an environment. Of variables with one key the last one counts. -/
def layerOfEnvironment (env : Environment) : Layer :=
  env.filterMap fun (name, s) =>
    (variableKey? name).map fun key => (key, .scalar (variableScalar s) (some "the environment"))

/-! ### Settings -/

/-- Settings from layers, converted and checked. -/
def ofLayers (layers : List Layer) : Except Error Settings := do
  let settings ← (decode (Value.ofLayers layers)).mapError .settings
  settings.validate
  return settings

/-- A path within a directory, unless it stands for itself. -/
def joinPath (dir path : String) : String :=
  if path.toList.head? = some '/' ∨ dir.isEmpty then path
  else if dir.toList.getLast? = some '/' then dir ++ path
  else dir ++ "/" ++ path

/-- The settings files of a directory: the one for all surroundings and the one for those that the
environment names. -/
def filesOf (env : Environment) (dir : String) : String × String :=
  (joinPath dir "default.toml",
    joinPath dir ((env.lookup "MOOSE_ENV").getD "development" ++ ".toml"))

/-- The settings of a directory: those for all surroundings, over them those for the one that the
environment names, over these the variables of the environment. -/
def load (files : Files.Reader) (env : Environment) (dir : String) : Except Error Settings := do
  let (common, special) := filesOf env dir
  let common ← (layerOfFile files common).mapError .settings
  let special ← (layerOfFile files special).mapError .settings
  ofLayers [common, special, layerOfEnvironment env]

end MooseHerd.Settings
