import MooseHerd.Decimal.Layout
import MooseHerd.Decimal.Whole
import MooseHerd.Settings.Basic
import MooseHerd.Settings.Value

/-! Settings from values. A value of another type than its field is converted where that is
possible; a field without a value keeps its default. -/

namespace MooseHerd.Settings

/-- The place of a value: the way to it as messages show it. -/
abbrev Place := String

def Place.member (place : Place) (name : String) : Place :=
  if place.isEmpty then name else place ++ "." ++ name

def Place.item (place : Place) (index : Nat) : Place := place ++ "[" ++ toString index ++ "]"

abbrev Decoder (α : Type) := Place → Value → Except Fault α

def flagText (b : Bool) : String := if b then "true" else "false"

/-- What a message calls a value that cannot be converted. -/
def Value.found : Value → String
  | scalar .nothing _ => "unit value"
  | scalar (.flag b) _ => "boolean \x60" ++ flagText b ++ "\x60"
  | scalar (.whole n) _ => "64-bit integer \x60" ++ toString n ++ "\x60"
  | scalar (.real x) _ => "floating point \x60" ++ Decimal.textLayout.text x ++ "\x60"
  | scalar (.text s) _ => "string " ++ Text.quoted s
  | list _ _ => "sequence"
  | table _ _ => "map"

def Value.origin : Value → Option String
  | scalar _ origin | list _ origin | table _ origin => origin

def refuse {α : Type} (found expected : String) (place : Place) (origin : Option String) :
    Except Fault α :=
  .error (.mismatch found expected (some place) origin)

/-- A text. Numbers and truth values are written out. -/
def decodeText : Decoder String := fun place v =>
  match v with
  | .scalar (.text s) _ => .ok s
  | .scalar (.flag b) _ => .ok (flagText b)
  | .scalar (.whole n) _ => .ok (toString n)
  | .scalar (.real x) _ => .ok (Decimal.textLayout.text x)
  | v => refuse v.found "a string" place v.origin

def trueWords : List String := ["true", "on", "yes"]

def falseWords : List String := ["false", "off", "no"]

/-- A number of 64 bits without a sign. Fractions are rounded, halves away from zero, and what is
out of range becomes the nearest number in range. -/
def decodeCount : Decoder UInt64 := fun place v =>
  match v with
  | .scalar (.whole n) origin =>
    if 0 ≤ n then .ok n.toNat.toUInt64
    else refuse v.found "an unsigned 64 bit or less integer" place origin
  | .scalar (.real x) _ => .ok (Decimal.nearestCount x)
  | .scalar (.flag b) _ => .ok (if b then 1 else 0)
  | .scalar (.text s) origin =>
    let word := Text.lowercase s
    if word ∈ trueWords then .ok 1
    else if word ∈ falseWords then .ok 0
    else match Decimal.natural? s with
      | some n =>
        if n < UInt64.size then .ok n.toUInt64 else refuse v.found "an integer" place origin
      | none => refuse v.found "an integer" place origin
  | v => refuse v.found "an integer" place v.origin

/-- A truth value. Numbers are true unless they are zero. -/
def decodeFlag : Decoder Bool := fun place v =>
  match v with
  | .scalar (.flag b) _ => .ok b
  | .scalar (.whole n) _ => .ok (n != 0)
  | .scalar (.real x) _ => .ok (x != 0)
  | .scalar (.text s) origin =>
    let word := Text.lowercase s
    if word ∈ "1" :: trueWords then .ok true
    else if word ∈ "0" :: falseWords then .ok false
    else refuse ("string " ++ Text.quoted word) "a boolean" place origin
  | v => refuse v.found "a boolean" place v.origin

def decodeOptional {α : Type} (decode : Decoder α) : Decoder (Option α) := fun place v =>
  match v with
  | .scalar .nothing _ => .ok none
  | v => (decode place v).map some

/-- What a message calls a value in the place of a section. -/
def Value.foundForSection : Value → String
  | scalar (.whole n) _ => "integer \x60" ++ toString n ++ "\x60"
  | scalar (.real x) _ =>
    let text := Decimal.textLayout.text x
    "floating point \x60" ++ (if x.isFinite && !text.toList.contains '.' then text ++ ".0"
      else text) ++ "\x60"
  | v => v.found

/-- The members of a section, by the names of its fields. A list gives its items to the fields in
their order. -/
def sectionMembers (label : String) (fields : List String) (place : Place) (v : Value) :
    Except Fault (List (String × Place × Value)) :=
  match v with
  | .table members _ => .ok (members.map fun (name, v) => (name, place.member name, v))
  | .list items _ =>
    .ok ((fields.zip items.zipIdx).map fun (name, v, i) => (name, place.item i, v))
  | v => refuse v.foundForSection ("struct " ++ label) place none

/-- Reads a field of a section, if it has a value. -/
def field {α : Type} (members : List (String × Place × Value)) (name : String)
    (decode : Decoder α) (default : α) : Except Fault α :=
  match members.lookup name with
  | some (place, v) => decode place v
  | none => .ok default

def decodeCluster : Decoder ClusterSettings := fun place v => do
  let ms ← sectionMembers "ClusterConfig" ["endpoint", "token", "token_file", "ca_cert_file",
    "insecure_skip_tls_verify", "namespace", "timeout_seconds"] place v
  let d : ClusterSettings := {}
  return {
    endpoint := ← field ms "endpoint" decodeText d.endpoint
    token := ← field ms "token" (decodeOptional decodeText) d.token
    tokenFile := ← field ms "token_file" (decodeOptional decodeText) d.tokenFile
    caCertFile := ← field ms "ca_cert_file" (decodeOptional decodeText) d.caCertFile
    insecureSkipTlsVerify :=
      ← field ms "insecure_skip_tls_verify" decodeFlag d.insecureSkipTlsVerify
    space := ← field ms "namespace" decodeText d.space
    timeoutSeconds := (← field ms "timeout_seconds" decodeCount d.timeoutSeconds.toUInt64).toNat }

def decodeResource : Decoder ResourceSettings := fun place v => do
  let ms ← sectionMembers "ResourceConfig" ["group", "version", "plural", "kind"] place v
  let d : ResourceSettings := {}
  return {
    group := ← field ms "group" decodeText d.group
    version := ← field ms "version" decodeText d.version
    plural := ← field ms "plural" decodeText d.plural
    kind := ← field ms "kind" decodeText d.kind }

def decodeGenerator : Decoder GeneratorSettings := fun place v => do
  let ms ← sectionMembers "GeneratorSettings" ["letter", "max_name_attempts", "seed", "park"]
    place v
  let d : GeneratorSettings := {}
  return {
    letter := ← field ms "letter" decodeText d.letter
    maxNameAttempts :=
      (← field ms "max_name_attempts" decodeCount d.maxNameAttempts.toUInt64).toNat
    seed := ← field ms "seed" (decodeOptional decodeCount) d.seed
    park := ← field ms "park" decodeText d.park }

def decodeObservability : Decoder ReportSettings := fun place v => do
  let ms ← sectionMembers "ObservabilityConfig" ["log_level", "log_format"] place v
  let d : ReportSettings := {}
  return {
    logLevel := ← field ms "log_level" decodeText d.logLevel
    logFormat := ← field ms "log_format" decodeText d.logFormat }

def decode (v : Value) : Except Fault Settings := do
  let ms := v.members.map fun (name, v) => (name, (name : Place), v)
  return {
    cluster := ← field ms "cluster" decodeCluster {}
    resource := ← field ms "resource" decodeResource {}
    generator := ← field ms "generator" decodeGenerator {}
    observability := ← field ms "observability" decodeObservability {} }

end MooseHerd.Settings
