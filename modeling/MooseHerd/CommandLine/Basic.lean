import MooseHerd.CommandLine.Help
import MooseHerd.Decimal.Bounded
import MooseHerd.Settings.Basic

/-! The arguments of the program. They may come in any order; an option with a value takes it from
after an equals sign or from the next argument. A value is looked at only when the next option comes
or the arguments end, so that an unknown option is told first. -/

namespace MooseHerd.CommandLine

/-- What the program is asked to do. -/
structure Invocation where
  /-- The number of moose, from 1 to the greatest number of 32 bits. -/
  count : Nat
  logLevel : Option String := none
  configDir : String := "config"
  seed : Option UInt64 := none
  dryRun : Bool := false
  deriving Repr, BEq, DecidableEq

inductive Parameter where
  | count
  | logLevel
  | configDir
  | seed
  deriving Repr, BEq, DecidableEq

def Parameter.label : Parameter → String
  | count => "<COUNT>"
  | logLevel => "--log-level <LOG_LEVEL>"
  | configDir => "--config-dir <CONFIG_DIR>"
  | seed => "--seed <SEED>"

inductive Switch where
  | dryRun
  | help
  | version
  deriving Repr, BEq, DecidableEq

def Switch.label : Switch → String
  | dryRun => "--dry-run"
  | help => "--help"
  | version => "--version"

inductive Opt where
  | parameter (p : Parameter)
  | switch (s : Switch)
  deriving Repr, BEq, DecidableEq

def Opt.ofLong? (name : String) : Option Opt :=
  if name = "log-level" then some (.parameter .logLevel)
  else if name = "config-dir" then some (.parameter .configDir)
  else if name = "seed" then some (.parameter .seed)
  else if name = "dry-run" then some (.switch .dryRun)
  else if name = "help" then some (.switch .help)
  else if name = "version" then some (.switch .version)
  else none

def Opt.ofShort? (c : Char) : Option Opt :=
  if c = 'l' then some (.parameter .logLevel)
  else if c = 'c' then some (.parameter .configDir)
  else if c = 'h' then some (.switch .help)
  else if c = 'V' then some (.switch .version)
  else none

inductive Misuse where
  | unexpectedArgument (arg : String)
  | missingValue (label : String)
  | invalidValue (value label reason : String)
  | repeated (label : String)
  | unexpectedValue (value label : String)
  | missingCount
  deriving Repr, BEq, DecidableEq

def Misuse.message : Misuse → String
  | unexpectedArgument arg => "error: unexpected argument '" ++ arg ++ "' found"
  | missingValue label =>
    "error: a value is required for '" ++ label ++ "' but none was supplied"
  | invalidValue value label reason =>
    "error: invalid value '" ++ value ++ "' for '" ++ label ++ "': " ++ reason
  | repeated label => "error: the argument '" ++ label ++ "' cannot be used multiple times"
  | unexpectedValue value label =>
    "error: unexpected value '" ++ value ++ "' for '" ++ label ++ "' found; no more were expected"
  | missingCount =>
    "error: the following required arguments were not provided:\n  " ++ Parameter.count.label

/-- Why the program does nothing else. -/
inductive Stop where
  | help (long : Bool)
  | version
  | misuse (m : Misuse)
  deriving Repr, BEq, DecidableEq

structure Given where
  count : Option Nat := none
  logLevel : Option String := none
  configDir : Option String := none
  seed : Option UInt64 := none
  dryRun : Bool := false

/-- A parameter whose value is still to be looked at, or to come. -/
structure Pending where
  parameter : Parameter
  value : Option String

structure State where
  given : Given := {}
  pending : Option Pending := none
  /-- Whether the count was met, looked at or not. -/
  counted : Bool := false
  /-- Whether all that follows is meant for the count. -/
  trailing : Bool := false

abbrev Result := Except Stop

def misuse {α : Type} (m : Misuse) : Result α := .error (.misuse m)

def countLimit : Nat := UInt32.size - 1

def countOf (s : String) : Result Nat :=
  match Decimal.int64 s with
  | .error flaw => misuse (.invalidValue s Parameter.count.label flaw.message)
  | .ok n =>
    if 1 ≤ n ∧ n ≤ countLimit then .ok n.toNat
    else misuse (.invalidValue s Parameter.count.label
      (toString n ++ " is not in 1..=" ++ toString countLimit))

def seedOf (s : String) : Result UInt64 :=
  match Decimal.uint64 s with
  | .error flaw => misuse (.invalidValue s Parameter.seed.label flaw.message)
  | .ok n => .ok n

/-- The name of a directory, which must not be empty. -/
def directoryOf (s : String) : Result String :=
  if s.isEmpty then misuse (.missingValue Parameter.configDir.label) else .ok s

def Given.has (g : Given) : Parameter → Bool
  | .count => g.count.isSome
  | .logLevel => g.logLevel.isSome
  | .configDir => g.configDir.isSome
  | .seed => g.seed.isSome

/-- Takes a value for a parameter, which must not have one yet. -/
def Given.take (g : Given) (p : Parameter) (value : String) : Result Given := do
  if g.has p then misuse (.repeated p.label)
  match p with
  | .count => return { g with count := some (← countOf value) }
  | .logLevel => return { g with logLevel := some value }
  | .configDir => return { g with configDir := some (← directoryOf value) }
  | .seed => return { g with seed := some (← seedOf value) }

/-- Looks at the value that is still to be looked at. -/
def State.settle (s : State) : Result State :=
  match s.pending with
  | none => .ok s
  | some ⟨p, none⟩ => misuse (.missingValue p.label)
  | some ⟨p, some value⟩ => do return { s with given := ← s.given.take p value, pending := none }

def State.turnOn (s : State) (switch : Switch) (long : Bool) : Result State := do
  let s ← s.settle
  match switch with
  | .help => .error (.help long)
  | .version => .error .version
  | .dryRun =>
    if s.given.dryRun then misuse (.repeated switch.label)
    return { s with given := { s.given with dryRun := true } }

/-- An option that takes a value, with the value if it is attached. -/
def State.name (s : State) (p : Parameter) (attached : Option String) : Result State := do
  let s ← s.settle
  match attached with
  | some value => return { s with given := ← s.given.take p value }
  | none => return { s with pending := some ⟨p, none⟩ }

/-- An option by its long name, with what follows an equals sign. -/
def State.takeLong (s : State) (name : String) (attached : Option String) : Result State :=
  match Opt.ofLong? name, attached with
  | none, _ => misuse (.unexpectedArgument ("--" ++ name))
  | some (.parameter p), attached => s.name p attached
  | some (.switch switch), some value => misuse (.unexpectedValue value switch.label)
  | some (.switch switch), none => s.turnOn switch true

/-- Options by their letters. The first one that takes a value takes all that follows it, without
an equals sign. -/
def State.takeShort : State → List Char → Result State
  | s, [] => .ok s
  | s, c :: rest =>
    match Opt.ofShort? c with
    | none => misuse (.unexpectedArgument ("-" ++ c.toString))
    | some (.parameter p) =>
      s.name p <| match rest with
        | [] => none
        | '=' :: value => some (String.ofList value)
        | value => some (String.ofList value)
    | some (.switch switch) => do (← s.turnOn switch false).takeShort rest

/-- An argument that is no option: the value that is awaited, else the count. -/
def State.takeValue (s : State) (arg : String) : Result State :=
  match s.pending, s.trailing with
  | some ⟨p, none⟩, false => .ok { s with pending := some ⟨p, some arg⟩ }
  | _, _ =>
    if s.counted then misuse (.unexpectedArgument arg)
    else do return { ← s.settle with pending := some ⟨.count, some arg⟩, counted := true }

def State.take (s : State) (arg : String) : Result State :=
  if s.trailing then s.takeValue arg
  else match arg.toList with
    | ['-', '-'] => .ok { s with trailing := true }
    | '-' :: '-' :: long =>
      let (name, value) := long.span (· ≠ '=')
      s.takeLong (String.ofList name) <| match value with
        | [] => none
        | _ :: value => some (String.ofList value)
    | '-' :: c :: rest => s.takeShort (c :: rest)
    | _ => s.takeValue arg

def Given.invocation (g : Given) : Result Invocation :=
  match g.count with
  | none => misuse .missingCount
  | some count => .ok {
      count
      logLevel := g.logLevel
      configDir := g.configDir.getD "config"
      seed := g.seed
      dryRun := g.dryRun }

def parse (args : List String) : Result Invocation := do
  let s ← args.foldlM State.take {}
  (← s.settle).given.invocation

/-- Lays the options over the settings: only the level of reports and the seed can change. -/
def Invocation.override (i : Invocation) (s : Settings) : Settings :=
  { s with
    observability := { s.observability with
      logLevel := i.logLevel.getD s.observability.logLevel }
    generator := { s.generator with seed := i.seed.orElse fun _ => s.generator.seed } }

end MooseHerd.CommandLine
