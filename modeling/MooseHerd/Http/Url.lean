import MooseHerd.Json.Reader
import MooseHerd.Text.Split
import MooseHerd.Text.Utf8

/-! Addresses of resources on web servers, and the text of an address as a request line shows it.
Addresses are read leniently: blanks around them are dropped, backslashes count as slashes, and
characters that an address cannot hold are encoded. -/

namespace MooseHerd.Http

/-- Who asks, as an address may say it. -/
structure User where
  name : String
  password : Option String
  deriving Repr, BEq, DecidableEq, Inhabited

structure Url where
  /-- Whether the connection is encrypted. -/
  secure : Bool
  user : Option User
  host : String
  /-- The port, unless it is the usual one. -/
  port : Option Nat
  /-- The path in its encoded form, beginning with a slash. -/
  path : String
  query : Option String
  deriving Repr, BEq, DecidableEq, Inhabited

namespace Url

/-! ### Percent encoding -/

def upperHexDigit (n : Nat) : Char := (Nat.digitChar n).toUpper

def encodeByte (b : UInt8) : List Char :=
  ['%', upperHexDigit (b.toNat / 16), upperHexDigit (b.toNat % 16)]

/-- Encodes the bytes of the characters that are in the set, and of all that are not printable
ASCII. -/
def encode (inSet : Char → Bool) (cs : List Char) : List Char :=
  cs.flatMap fun c =>
    if c.toNat ≤ 0x1f || 0x7f ≤ c.toNat || inSet c then
      (Text.Utf8.encode c.toString).flatMap encodeByte
    else [c]

def inPathSet (c : Char) : Bool :=
  c ∈ [' ', '"', '#', '<', '>', '?', '\x60', '\x7b', '\x7d']

def inQuerySet (c : Char) : Bool := c ∈ [' ', '"', '#', '<', '>', '\'']

/-! ### Paths -/

/-- Whether a segment stands for the directory itself. -/
def isSingleDot (segment : List Char) : Bool :=
  segment = ['.'] || segment.map Char.toLower = ['%', '2', 'e']

/-- A segment with encoded dots decoded. -/
def decodeDots : List Char → List Char
  | '%' :: '2' :: e :: rest =>
    if e = 'e' ∨ e = 'E' then '.' :: decodeDots rest else '%' :: '2' :: decodeDots (e :: rest)
  | c :: rest => c :: decodeDots rest
  | [] => []

/-- Whether a segment stands for the directory above. -/
def isDoubleDot (segment : List Char) : Bool := decodeDots segment = ['.', '.']

/-- Goes along segments from the path so far, the nearest segment first. -/
def walk : List (List Char) → List (List Char) → List (List Char)
  | done, [] => done
  | done, segment :: rest =>
    if isDoubleDot segment then walk (if rest.isEmpty then [] :: done.tail else done.tail) rest
    else if isSingleDot segment then walk (if rest.isEmpty then [] :: done else done) rest
    else walk (encode inPathSet segment :: done) rest

def pathOf (cs : List Char) : String :=
  let segments := match cs with
    | [] => [[]]
    | _ :: rest => Text.splitOn '/' (rest.map fun c => if c = '\\' then '/' else c)
  String.ofList ((walk [] segments).reverse.flatMap ('/' :: ·))

/-! ### Hosts -/

def forbiddenInHost (c : Char) : Bool :=
  c.toNat ≤ 0x20 || c.toNat = 0x7f ||
    c ∈ ['#', '/', ':', '<', '>', '?', '@', '[', '\\', ']', '^', '|', '%']

def percentDecode : List UInt8 → List UInt8
  | 37 :: a :: b :: rest =>
    match Json.hexValue? (Char.ofNat a.toNat), Json.hexValue? (Char.ofNat b.toNat) with
    | some x, some y => (16 * x + y).toUInt8 :: percentDecode rest
    | _, _ => 37 :: percentDecode (a :: b :: rest)
  | b :: rest => b :: percentDecode rest
  | [] => []

def digitsIn (base : Nat) (cs : List Char) : Option Nat :=
  cs.foldlM (fun n c => do
    let d ← Json.hexValue? c
    if d < base then some (base * n + d) else none) 0

/-- A part of a numeric host: decimal, or octal or hexadecimal with a zero in front. -/
def hostNumber? : List Char → Option Nat
  | [] => none
  | '0' :: 'x' :: ds | '0' :: 'X' :: ds => digitsIn 16 ds
  | '0' :: d :: ds => digitsIn 8 (d :: ds)
  | ds => digitsIn 10 ds

/-- The four bytes of a numeric host with so many parts; the last part fills up what is missing. -/
def addressOf? (parts : List Nat) : Option String :=
  match parts.reverse with
  | [] => none
  | last :: before =>
    if 4 < parts.length ∨ before.any (255 < ·) ∨ Nat.pow 256 (5 - parts.length) ≤ last then none
    else
      let high := before.reverse.zipIdx.foldl (fun n (p, i) => n + p * Nat.pow 256 (3 - i)) 0
      let n := high + last
      some (Text.join "." ((List.range 4).map fun i => toString (n / Nat.pow 256 (3 - i) % 256)))

/-- The host that a name stands for. A name whose last part is a number is a numeric address.
Letters beyond ASCII are kept as they are. -/
def namedHost? (cs : List Char) : Option String :=
  let name := (Text.Utf8.decodeLossy (percentDecode (Text.Utf8.encode (String.ofList cs)))).toList
  let name := name.map Char.toLower
  if name.isEmpty || name.any forbiddenInHost then none
  else
    let parts := Text.splitOn '.' name
    let parts := if parts.getLast? = some [] ∧ parts.length > 1 then parts.dropLast else parts
    match parts.getLast? with
    | some last =>
      if !last.isEmpty && (last.all Char.isDigit || (hostNumber? last).isSome) then do
        addressOf? (← parts.mapM hostNumber?)
      else some (String.ofList name)
    | none => none

/-- A group of an address in brackets: up to four hexadecimal digits. -/
def group? (cs : List Char) : Option Nat :=
  if cs.isEmpty || 4 < cs.length then none else digitsIn 16 cs

/-- A byte of a numeric address in brackets. It has no zero in front. -/
def byte? (cs : List Char) : Option Nat :=
  match cs with
  | [] | '0' :: _ :: _ => none
  | ds => (digitsIn 10 ds).filter (· ≤ 255)

/-- The last of the groups, which two may be written as a numeric address. -/
def lastGroups? (cs : List Char) : Option (List Nat) :=
  if cs.contains '.' then
    match (Text.splitOn '.' cs).mapM byte? with
    | some [a, b, c, d] => some [256 * a + b, 256 * c + d]
    | _ => none
  else (group? cs).map ([·])

/-- The groups of a text with a colon between each two. -/
def groups? (cs : List Char) : Option (List Nat) :=
  if cs.isEmpty then some []
  else do
    let pieces := Text.splitOn ':' cs
    return (← pieces.dropLast.mapM group?) ++ (← lastGroups? (pieces.getLastD []))

/-- The text before the first two colons that follow one another, and the text after them. -/
def cutAtGap : List Char → Option (List Char × List Char)
  | ':' :: ':' :: rest => some ([], rest)
  | c :: rest => (cutAtGap rest).map fun (before, after) => (c :: before, after)
  | [] => none

/-- The eight groups of an address in brackets. At one place zeros may be left out. -/
def bracketed? (cs : List Char) : Option (List Nat) :=
  match cutAtGap cs with
  | none => (groups? cs).filter (·.length = 8)
  | some (before, after) => do
    let high ← if before.contains '.' then none else groups? before
    let low ← groups? after
    let written := high.length + low.length
    if written ≤ 7 then some (high ++ List.replicate (8 - written) 0 ++ low) else none

def zerosAhead (groups : List Nat) : Nat := (groups.takeWhile (· = 0)).length

/-- The plainest text of an address in brackets: the first of the longest runs of zeros is left
out. -/
def bracketedText (groups : List Nat) : List Char :=
  let join (groups : List Nat) := Text.joinWith [':'] (groups.map (Nat.toDigits 16))
  let runs := (List.range groups.length).map fun i => zerosAhead (groups.drop i)
  let longest := runs.foldl max 0
  if longest < 2 then join groups
  else
    let start := runs.idxOf longest
    join (groups.take start) ++ [':', ':'] ++ join (groups.drop (start + longest))

def hostOf? (cs : List Char) : Option (String × List Char) :=
  match cs with
  | '[' :: rest => do
    let (inside, after) := rest.span (· ≠ ']')
    let groups ← if after.isEmpty then none else bracketed? inside
    return (String.ofList ('[' :: (bracketedText groups ++ [']'])), after.drop 1)
  | cs => do
    let (name, after) := cs.span (· ≠ ':')
    return (← namedHost? name, after)

/-- The port after a colon. The usual port and no port at all are the same. -/
def portOf? (usual : Nat) : List Char → Option (Option Nat)
  | [] | [':'] => some none
  | ':' :: ds => do
    let n ← if ds.all Char.isDigit then digitsIn 10 ds else none
    if n > 65535 then none else some (if n = usual then none else some n)
  | _ => none

/-! ### Addresses -/

def isEnd (c : Char) : Bool := c = '/' || c = '\\' || c = '?' || c = '#'

/-- What stands before the last at sign of an authority, and the rest with the host. -/
def splitUser (cs : List Char) : List Char × List Char :=
  let (host, before) := cs.reverse.span (· ≠ '@')
  (before.tail.reverse, host.reverse)

def decoded? (cs : List Char) : Option String :=
  Text.Utf8.decode? (percentDecode (Text.Utf8.encode (String.ofList cs)))

/-- Who asks: a name and, after the first colon, a password. -/
def userOf? (cs : List Char) : Option User := do
  let (name, rest) := cs.span (· ≠ ':')
  let name ← decoded? name
  let password := if rest.length ≤ 1 then none else decoded? rest.tail
  if name.isEmpty && password.isNone then none else some { name, password }

/-- The name of the protocol and what follows its colon. -/
def scheme? (cs : List Char) : Option (String × List Char) :=
  let (name, rest) := cs.span fun c => c.isAlphanum || c = '+' || c = '-' || c = '.'
  match name, rest with
  | first :: _, ':' :: rest =>
    if first.isAlpha then some (String.ofList (name.map Char.toLower), rest) else none
  | _, _ => none

/-- The address that the text after the name of the protocol stands for. -/
def ofRest? (secure : Bool) (cs : List Char) : Option Url := do
  let (authority, rest) := (cs.dropWhile fun c => c = '/' || c = '\\').span (!isEnd ·)
  let (user, host) := splitUser authority
  let (host, after) ← hostOf? host
  let port ← portOf? (if secure then 443 else 80) after
  let (written, _) := rest.span (· ≠ '#')
  let (path, query) := written.span (· ≠ '?')
  return {
    secure, host, port
    user := userOf? user
    path := pathOf path
    query := match query with
      | [] => none
      | _ :: query => some (String.ofList (encode inQuerySet query)) }

/-- The address of a resource on a web server that a text stands for, if it is one. -/
def parse? (s : String) : Option Url := do
  let isEdge (c : Char) := decide (c.toNat ≤ 0x20)
  let cs := ((s.toList.dropWhile isEdge).reverse.dropWhile isEdge).reverse
  let cs := cs.filter fun c => c ≠ '\t' ∧ c ≠ '\n' ∧ c ≠ '\r'
  match ← scheme? cs with
  | ("http", rest) => ofRest? false rest
  | ("https", rest) => ofRest? true rest
  | _ => none

/-- The path and the query, as a request line shows them. -/
def requestTarget (u : Url) : String :=
  u.path ++ match u.query with
    | some query => "?" ++ query
    | none => ""

def server (u : Url) : String :=
  (if u.secure then "https://" else "http://") ++ u.host ++ match u.port with
    | some port => ":" ++ toString port
    | none => ""

end Url

end MooseHerd.Http
