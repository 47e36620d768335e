import MooseHerd.Json.Printer
import MooseHerd.Json.Schema
import MooseHerd.Text.Lowercase
import MooseHerd.Traits

/-! The description of a moose that is handed to a store, and its forms as a document. -/

namespace MooseHerd

structure Manifest where
  apiVersion : String
  kind : String
  name : String
  /-- Labels in ascending order of their names, each name once. -/
  labels : List (String × String)
  traits : Traits
  deriving Repr, BEq, Inhabited

/-- A number of a document as a double. -/
def Json.Number.toFloat : Json.Number → Float
  | whole n => Float.ofInt n
  | real x => x

namespace Manifest

/-- The label that tells the park. -/
def parkLabel : String := "nps.gov/park"

/-- The manifest of a moose in a park. Its name is put in lower case. -/
def ofMoose (apiVersion kind name park : String) (traits : Traits) : Manifest where
  apiVersion := apiVersion
  kind := kind
  name := Text.lowercase name
  labels := [(parkLabel, park)]
  traits := traits

def labelsDocument (m : Manifest) : Json :=
  .object (m.labels.map fun (name, value) => (name, .string value))

def document (m : Manifest) : Json :=
  .ofMembers [
    ("apiVersion", .string m.apiVersion),
    ("kind", .string m.kind),
    ("metadata", .ofMembers [("name", .string m.name), ("labels", m.labelsDocument)]),
    ("spec", .ofMembers [
      ("height", .ofFloat m.traits.height),
      ("weight", .ofFloat m.traits.weight),
      ("antlers", .bool m.traits.antlers)])]

/-- The manifest as text, with its members in the order in which they are read. -/
def text (m : Manifest) : String :=
  Json.compact <| .object [
    ("apiVersion", .string m.apiVersion),
    ("kind", .string m.kind),
    ("metadata", .object [("name", .string m.name), ("labels", m.labelsDocument)]),
    ("spec", .object [
      ("height", .ofFloat m.traits.height),
      ("weight", .ofFloat m.traits.weight),
      ("antlers", .bool m.traits.antlers)])]

def metadataSchema : Json.Schema :=
  .record "MooseMetadata" [("name", .text), ("labels", .textMap)]

def specSchema : Json.Schema :=
  .record "MooseSpec" [("height", .real), ("weight", .real), ("antlers", .flag)]

def schema : Json.Schema :=
  .record "MooseManifest" [
    ("apiVersion", .text),
    ("kind", .text),
    ("metadata", metadataSchema),
    ("spec", specSchema)]

def textAt? (name : String) (doc : Json) : Option String := (doc.member? name).bind Json.string?

def realAt? (name : String) (doc : Json) : Option Float :=
  match doc.member? name with
  | some (.number n) => some n.toFloat
  | _ => none

def flagAt? (name : String) (doc : Json) : Option Bool :=
  match doc.member? name with
  | some (.bool b) => some b
  | _ => none

def labelsAt? (name : String) (doc : Json) : Option (List (String × String)) :=
  match doc.member? name with
  | some (.object members) => members.mapM fun (k, v) => (Json.string? v).map (k, ·)
  | _ => none

def ofDocument? (doc : Json) : Option Manifest := do
  let doc ← schema.asRecord? doc
  let metadata ← metadataSchema.asRecord? (← doc.member? "metadata")
  let spec ← specSchema.asRecord? (← doc.member? "spec")
  return {
    apiVersion := ← textAt? "apiVersion" doc
    kind := ← textAt? "kind" doc
    name := ← textAt? "name" metadata
    labels := ← labelsAt? "labels" metadata
    traits := {
      height := ← realAt? "height" spec
      weight := ← realAt? "weight" spec
      antlers := ← flagAt? "antlers" spec } }

/-- Reads a manifest. A document of the right shape holds one. -/
def parse (s : String) : Json.Attempt Manifest := do
  let doc ← schema.parse s
  match ofDocument? doc with
  | some m => .ok m
  | none => .error .malformed

end Manifest

end MooseHerd
