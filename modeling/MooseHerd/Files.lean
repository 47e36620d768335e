import MooseHerd.Text.Split
import MooseHerd.Text.Utf8

/-! The files of a directory and how a path leads to them. A path is followed component by
component, as a file system does it, so that the way and not only the goal decides about a fault. -/

namespace MooseHerd

inductive Files.Fault where
  | notFound
  | isDirectory
  | notDirectory
  | nameTooLong
  /-- A path with a character that no path can hold. -/
  | invalidName
  /-- A file that should hold a text but does not hold UTF-8. -/
  | notText
  | other (message : String)
  deriving Repr, BEq, DecidableEq, Inhabited

/-- What the operating system says about the fault. -/
def Files.Fault.message : Files.Fault → String
  | notFound => "No such file or directory (os error 2)"
  | isDirectory => "Is a directory (os error 21)"
  | notDirectory => "Not a directory (os error 20)"
  | nameTooLong => "File name too long (os error 36)"
  | invalidName => "file name contained an unexpected NUL byte"
  | notText => "stream did not contain valid UTF-8"
  | other message => message

/-- Reads files by their paths. Nothing else about the files is known to the code that uses one. -/
abbrev Files.Reader := String → Except Files.Fault (List UInt8)

def Files.readText (files : Files.Reader) (path : String) : Except Files.Fault String := do
  match Text.Utf8.decode? (← files path) with
  | some text => .ok text
  | none => .error .notText

/-- Files by the components of their paths, within one directory. -/
structure FileTree where
  files : List (List String × List UInt8) := []

inductive FileTree.Node where
  | file (content : List UInt8)
  | directory

namespace FileTree

/-- Components that do not lead elsewhere. -/
def isIdle (component : String) : Bool := component == "" || component == "."

def components (path : String) : List String := Text.split '/' path

def ofList (files : List (String × List UInt8)) : FileTree :=
  ⟨files.map fun (path, content) => ((components path).filter (!isIdle ·), content)⟩

/-- What lies at a place that is given by plain names. -/
def node? (tree : FileTree) (place : List String) : Option Node :=
  match tree.files.lookup place with
  | some content => some (.file content)
  | none =>
    if place.isEmpty || tree.files.any (place.isPrefixOf ·.1) then some .directory else none

/-- The length in bytes that a component may have. -/
def componentLimit : Nat := 255

/-- The length in bytes that a path may have. -/
def pathLimit : Nat := 4095

/-- What is known of the places outside of the directory: that the way up consists of
directories. -/
def outside (way : List String) : Except Files.Fault Node :=
  if way.all fun c => isIdle c || c == ".." then .ok .directory else .error .notFound

def follow (tree : FileTree) (place : List String) : List String → Except Files.Fault Node
  | [] => match tree.node? place with
    | some node => .ok node
    | none => .error .notFound
  | component :: rest =>
    match tree.node? place with
    | none => .error .notFound
    | some (.file _) => .error .notDirectory
    | some .directory =>
      if isIdle component then tree.follow place rest
      else if component = ".." then
        if place.isEmpty then outside rest else tree.follow place.dropLast rest
      else if component.utf8ByteSize > componentLimit then .error .nameTooLong
      else tree.follow (place ++ [component]) rest

/-- What a path leads to. -/
def resolve (tree : FileTree) (path : String) : Except Files.Fault Node :=
  if path.toList.contains '\x00' then .error .invalidName
  else if path.isEmpty then .error .notFound
  else if path.utf8ByteSize > pathLimit then .error .nameTooLong
  else match components path with
    | "" :: way => outside way
    | way => tree.follow [] way

def read (tree : FileTree) : Files.Reader := fun path => do
  match ← tree.resolve path with
  | .file content => .ok content
  | .directory => .error .isDirectory

end FileTree

end MooseHerd
