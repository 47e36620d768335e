import MooseHerd.Decimal.Reader
import MooseHerd.Log.Event
import MooseHerd.Text.Letters
import MooseHerd.Text.Property.WhiteSpace
import MooseHerd.Text.Split

/-! Which reports are kept. A filter is a list of directives, each with the greatest detail that it
lets through; of the directives that fit the target of a report the most specific one decides. -/

namespace MooseHerd.Log

/-- The greatest detail that is let through: nothing, or everything up to a level. -/
abbrev Limit := Option Level

def Limit.detail : Limit → Nat
  | none => 0
  | some level => level.detail

def Limit.label : Limit → String
  | none => "off"
  | some .error => "error"
  | some .warn => "warn"
  | some .info => "info"
  | some .debug => "debug"
  | some .trace => "trace"

def limits : List Limit :=
  [none, some .error, some .warn, some .info, some .debug, some .trace]

/-- Reads a limit by its number or, in any case of letters, by its name. Nothing at all means
errors only. -/
def limit? (s : String) : Option Limit :=
  match (Decimal.natural? s).bind (limits[·]?) with
  | some limit => some limit
  | none =>
    let name := String.ofList (s.toList.map Char.toLower)
    if name = "" then some (some .error) else limits.find? (·.label == name)

/-- A limit for the reports of some targets. A directive that names a span or the value of a field
holds only within such a span. -/
structure Directive where
  target : Option String := none
  span : Option String := none
  /-- Names of fields, each with the value that it should have, if one is given. -/
  fields : List (String × Option String) := []
  limit : Limit := some .trace
  deriving Repr, BEq, Inhabited

namespace Directive

/-- How far the reader of a directive is: within the level or target, the span, a field, between
the fields, after the bracket or within the level. Numbers tell where the part starts. -/
inductive Stage where
  | start
  | levelOrTarget (start : Nat)
  | span (start : Nat)
  | field (start : Nat)
  | fields
  | target
  | level (start : Nat)

def slice (cs : List Char) (start stop : Nat) : String :=
  String.ofList ((cs.drop start).take (stop - start))

/-- The name of a field, with a value after an equals sign. -/
def field? (s : String) : Option (String × Option String) :=
  match Text.split '=' s with
  | name :: value :: _ => some (name, some value)
  | _ => if s = "" then none else some (s, none)

/-- Nothing between the brackets stands for any span. -/
def spanName? (s : String) : Option String := if s = "" then none else some s

def mayStart (c : Char) : Bool := c = '-' || c = ':' || c = '_' || Text.isAlphanumeric c

/-- Reads on from one position. The parts are cut from the whole text `cs`. -/
def step (cs : List Char) (position : Nat) (c : Char) (stage : Stage) (read : Directive) :
    Option (Stage × Directive) :=
  match stage with
  | .start =>
    if c = '[' then some (.span (position + 1), read)
    else if mayStart c then some (.levelOrTarget position, read)
    else none
  | .levelOrTarget start =>
    if c = '=' then
      some (.level (position + 1), { read with target := some (slice cs start position) })
    else if c = '[' then
      some (.span (position + 1), { read with target := some (slice cs start position) })
    else some (stage, read)
  | .span start =>
    if c = ']' then some (.target, { read with span := spanName? (slice cs start position) })
    else if c = '\x7b' then
      some (.field (position + 1), { read with span := spanName? (slice cs start position) })
    else some (stage, read)
  | .field start =>
    if c = '\x7d' then
      (field? (slice cs start position)).map fun field =>
        (.fields, { read with fields := read.fields ++ [field] })
    else some (stage, read)
  | .fields => if c = ']' then some (.target, read) else none
  | .target => if c = '=' then some (.level (position + 1), read) else none
  | .level _ => some (stage, read)

def steps (cs : List Char) : Nat → List Char → Stage → Directive → Option (Stage × Directive)
  | _, [], stage, read => some (stage, read)
  | position, c :: rest, stage, read => do
    let (stage, read) ← step cs position c stage read
    steps cs (position + 1) rest stage read

/-- The limit after an equals sign. Nothing at all means everything. -/
def limitOrAll? (s : String) : Option Limit := if s = "" then some (some .trace) else limit? s

/-- Reads a directive. White space around it does not count for its form, but its parts are cut
from the text as it is, at the places found without it. -/
def parse? (s : String) : Option Directive := do
  let cs := s.toList
  match ← steps cs 0 (Text.trimList cs) .start {} with
  | (.levelOrTarget start, read) =>
    let name := slice cs start cs.length
    match limit? name with
    | some limit => some { read with limit }
    | none => some { read with target := some name, limit := some .trace }
  | (.level start, read) => do
    return { read with limit := ← limitOrAll? (slice cs start cs.length) }
  | (.target, read) => some read
  | _ => none

def asksForValue (d : Directive) : Bool := d.fields.any (·.2.isSome)

/-- Whether the directive also holds outside of spans. -/
def isPlain (d : Directive) : Bool := d.span.isNone && !d.asksForValue

def concernsSpans (d : Directive) : Bool := d.span.isSome || !d.fields.isEmpty

/-- Whether two directives are for the same reports, so that the later replaces the earlier. -/
def sameScope (a b : Directive) : Bool :=
  a.target == b.target && a.span == b.span && a.fields == b.fields

/-- Whether the directive has something to say about a report. -/
def fits (d : Directive) (event : Event) : Bool :=
  (match d.target with
    | some target => target.toList.isPrefixOf event.target.toList
    | none => true) &&
  d.fields.all fun (name, _) => name == "message" || (event.fields.lookup name).isSome

/-- How specific the directive is: by the length of its target, then by its number of fields. -/
def rank (d : Directive) : Nat × Nat :=
  (match d.target with
    | some target => target.utf8ByteSize + 1
    | none => 0, d.fields.length)

def text (d : Directive) : String :=
  let fields := d.fields.map fun (name, value) => match value with
    | some value => name ++ "=" ++ value
    | none => name
  let braced := if fields.isEmpty then "" else "\x7b" ++ Text.join "," fields ++ "\x7d"
  let span := if d.concernsSpans then "[" ++ d.span.getD "" ++ braced ++ "]" else ""
  let scope := d.target.getD "" ++ span
  if d.target.isSome || d.concernsSpans then scope ++ "=" ++ d.limit.label else d.limit.label

end Directive

/-- The directives in force, in the order in which they were given. -/
structure Filter where
  directives : List Directive := []
  /-- The greatest limit that was ever given, also by a directive replaced since. -/
  maxLimit : Limit := none
  deriving Repr, Inhabited

namespace Filter

/-- Adds a directive in the place of an earlier one for the same reports. -/
def add (filter : Filter) (d : Directive) : Filter where
  directives := filter.directives.filter (!d.sameScope ·) ++ [d]
  maxLimit := if filter.maxLimit.detail < d.limit.detail then d.limit else filter.maxLimit

/-- Reads a filter: directives between commas. -/
def parse? (s : String) : Option Filter := do
  let directives ← ((Text.split ',' s).filter (· ≠ "")).mapM Directive.parse?
  return directives.foldl add {}

/-- The filter that the environment asks for, else the one of the given level, else up to the level
`info`. A filter that cannot be read counts as none. -/
def choose (environment : Option String) (level : String) : Filter :=
  match environment.bind parse? with
  | some filter => filter
  | none => (parse? level).getD (add {} { limit := some .info })

def moreSpecific (a b : Directive) : Directive :=
  let (m, n) := a.rank
  let (m', n') := b.rank
  if m < m' ∨ m = m' ∧ n < n' then b else a

/-- The most specific directive that fits a report. -/
def governing? (filter : Filter) (event : Event) : Option Directive :=
  match filter.directives.filter fun d => d.isPlain && d.fits event with
  | [] => none
  | d :: ds => some (ds.foldl moreSpecific d)

def admits (filter : Filter) (event : Event) : Bool :=
  match filter.governing? event with
  | some d => event.level.detail ≤ d.limit.detail
  | none => false

/-- The greatest detail that any report may have. Where the value of a field is asked for, it is
not limited. -/
def mostDetail (filter : Filter) : Limit :=
  if filter.directives.any Directive.asksForValue then some .trace else filter.maxLimit

/-- The directives as they are written: those that hold outside of spans, then those that hold
within. One that names fields only is of both kinds. -/
def texts (filter : Filter) : List String :=
  (filter.directives.filter Directive.isPlain ++
    filter.directives.filter Directive.concernsSpans).map Directive.text

end Filter

end MooseHerd.Log
