import MooseHerd.Http.Offline
import MooseHerd.Program
import MooseHerd.Store.Stamp
import Std.Time.DateTime.Timestamp

/-! The command line: gathers what the program needs from its surroundings, and writes what it
leaves behind. There is no network, so that only dry runs can succeed. -/

namespace MooseHerd.Main

def faultOf : IO.Error → Files.Fault
  | .noFileOrDirectory _ _ _ => .notFound
  | .inappropriateType _ 20 _ => .notDirectory
  | .inappropriateType _ _ _ => .isDirectory
  | e => .other (toString e)

def readFile (path : String) : IO (Except Files.Fault (List UInt8)) := do
  try
    return .ok (← IO.FS.readBinFile path).data.toList
  catch e => return .error (faultOf e)

def readerOf (paths : List String) : IO Files.Reader := do
  let contents ← paths.mapM fun path => do return (path, ← readFile path)
  return fun path => (contents.lookup path).getD (.error .notFound)

def environment : IO Settings.Environment := do
  match ← readFile "/proc/self/environ" with
  | .error _ => return []
  | .ok bytes =>
    return (Text.split '\x00' (Text.Utf8.decodeLossy bytes)).filterMap fun entry =>
      match entry.toList.span (· ≠ '=') with
      | (_ :: _, []) | ([], _) => none
      | (name, _ :: value) => some (String.ofList name, String.ofList value)

/-- The paths of the files that settings may come from. -/
def settingsPaths (env : Settings.Environment) (dir : String) : List String :=
  let (common, special) := Settings.filesOf env dir
  (Settings.candidates common ++ Settings.candidates special).map (·.1)

/-- A reader of all files that the arguments lead to. -/
def filesFor (args : List String) (env : Settings.Environment) : IO Files.Reader := do
  match CommandLine.parse args with
  | .error _ => readerOf []
  | .ok i =>
    let paths := settingsPaths env i.configDir
    let files ← readerOf paths
    match Program.settingsFor files env i with
    | .error _ => return files
    | .ok settings =>
      readerOf (paths ++ settings.cluster.tokenFile.toList ++ settings.cluster.caCertFile.toList)

def randomSeed : IO UInt64 := do
  return (← IO.getRandomBytes 8).data.foldl (fun n b => 256 * n + b.toUInt64) 0

end MooseHerd.Main

open MooseHerd in
/-- Runs the program and ends with its exit code. -/
def main (args : List String) : IO UInt32 := do
  let env ← Main.environment
  let now := (← Std.Time.Timestamp.now).toSecondsSinceUnixEpoch.toInt.toNat
  let around : Run.Surroundings Http.Offline := {
    files := ← Main.filesFor args env
    network := {}
    stamps := Stamp.series (← Main.randomSeed) now
    words := .ofSeed (← Main.randomSeed)
    time := some (Stamp.timeOf now) }
  let ending := Program.run args env around
  IO.print ending.output
  for line in ending.reports do
    IO.eprintln line
  for line in ending.failure.toList do
    IO.eprintln line
  return ending.exitCode.toUInt32
