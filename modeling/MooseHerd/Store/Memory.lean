import MooseHerd.Store.Basic

/-! A store that keeps its documents to itself. It answers as a server would: a name is taken once
in a collection, and a document comes back with the data that the server adds. -/

namespace MooseHerd

/-- What a server adds to a document besides its collection and its number. -/
structure Stamp where
  uid : String
  time : String
  deriving Repr, BEq, Inhabited

structure MemoryStore where
  /-- The documents under their keys, in ascending order of the keys. -/
  entries : List (String × Json) := []
  /-- How many documents were created. -/
  created : Nat := 0
  /-- The stamps of the documents by their number. -/
  stamps : Nat → Stamp

namespace MemoryStore

/-- The key of a document: its collection and its name as one path. -/
def key (target : Target) (name : String) : String :=
  target.space ++ "/" ++ target.group ++ "/" ++ target.version ++ "/" ++ target.plural ++ "/" ++
    name

def get? (store : MemoryStore) (target : Target) (name : String) : Option Json :=
  store.entries.lookup (key target name)

def contains (store : MemoryStore) (target : Target) (name : String) : Bool :=
  (store.get? target name).isSome

/-- The documents whose key lies within the collection, in the order of the keys. -/
def list (store : MemoryStore) (target : Target) : List Json :=
  (store.entries.filter fun (k, _) => (key target "").toList.isPrefixOf k.toList).map (·.2)

def count (store : MemoryStore) : Nat := store.entries.length

/-- The members that the store sets in the metadata of its document with the given number. -/
def stampMembers (target : Target) (number : Nat) (stamp : Stamp) : List (String × Json) :=
  [("namespace", .string target.space), ("uid", .string stamp.uid),
    ("resourceVersion", .string (toString number)), ("creationTimestamp", .string stamp.time)]

/-- A document with members set in its metadata, if it has such an object. -/
def setMetadata? (members : List (String × Json)) : Json → Option Json
  | .object top =>
    match top.lookup "metadata" with
    | some (.object metadata) =>
      let metadata := members.foldl (fun acc (k, v) => Json.insertMember k v acc) metadata
      some (.object (Json.insertMember "metadata" (.object metadata) top))
    | _ => none
  | _ => none

/-- Creates a document under its name, unless there is one of that name. -/
def create (store : MemoryStore) (target : Target) (doc : Json) : Except Error Json × MemoryStore :=
  match (documentName? doc).filter (· ≠ "") with
  | none => (.error (.validation "metadata.name 不能为空"), store)
  | some name =>
    if store.contains target name then
      (.error (.alreadyExists target.resourceType name), store)
    else
      let number := store.created + 1
      match setMetadata? (stampMembers target number (store.stamps number)) doc with
      | none => (.error (.validation "缺少 metadata 字段"), store)
      | some stored =>
        (.ok stored, { store with
          entries := Json.insertMember (key target name) stored store.entries
          created := number })

instance : ObjectStore MemoryStore where
  create store target doc :=
    let (result, store) := store.create target doc
    ({ result }, store)

end MemoryStore

end MooseHerd
