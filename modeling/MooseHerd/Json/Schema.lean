import MooseHerd.Decimal.Layout
import MooseHerd.Json.Reader
import MooseHerd.Text.Quoted

/-! Documents of a known shape from text. A schema says what is expected; the reader goes through
the text once and reports the first place where it is no document or not one of that shape. What
the schema does not name is passed over with a coarser check. -/

namespace MooseHerd.Json

/-- The shape of a document. -/
inductive Schema where
  | text
  | real
  | flag
  /-- An object whose members are texts. -/
  | textMap
  /-- A document, or `null` in its place; a member of this shape may be left out. -/
  | optional (schema : Schema)
  /-- An object with these members, or an array of them in this order. -/
  | record (name : String) (fields : List (String × Schema))

def Schema.label : Schema → String
  | text => "a string"
  | real => "f64"
  | flag => "a boolean"
  | textMap => "a map"
  | optional _ => "option"
  | record name _ => "struct " ++ name

def Schema.isOptional : Schema → Bool
  | optional _ => true
  | _ => false

def Schema.names : Schema → List String
  | record _ fields => fields.map (·.1)
  | _ => []

/-- A record as an object. An array of as many items as the record has members stands for the
object with these members. -/
def Schema.asRecord? (schema : Schema) : Json → Option Json
  | .object members => some (.object members)
  | .array items =>
    if items.length = schema.names.length then some (.object (schema.names.zip items)) else none
  | _ => none

/-! ### Members and items that the schema does not name -/

/-- A string whose escapes need not stand for characters. -/
def skipStringWithin : Nat → List Char → Attempt (List Char)
  | 0, _ => .error .truncated
  | _, [] => .error .truncated
  | fuel + 1, c :: rest =>
    if c = '"' then .ok rest
    else if c = '\\' then
      match rest with
      | [] => .error .truncated
      | 'u' :: rest => do
        let (_, rest) ← readHex4 rest
        skipStringWithin fuel rest
      | e :: rest =>
        if e ∈ ['"', '\\', '/', 'b', 'f', 'n', 'r', 't'] then skipStringWithin fuel rest
        else .error .malformed
    else if c.toNat < 0x20 then .error .malformed
    else skipStringWithin fuel rest

def skipString (cs : List Char) : Attempt (List Char) := skipStringWithin (cs.length + 1) cs

/-- A number of any size. A number that breaks off is malformed here, not cut off. -/
def skipNumber (cs : List Char) : Attempt (List Char) :=
  match takeNumeral cs with
  | .ok (_, rest) => .ok rest
  | .error _ => .error .malformed

mutual

def skipValue : Nat → List Char → Attempt (List Char)
  | 0, _ => .error .truncated
  | fuel + 1, cs =>
    match skipBlanks cs with
    | [] => .error .truncated
    | 'n' :: rest => expect ['u', 'l', 'l'] rest
    | 't' :: rest => expect ['r', 'u', 'e'] rest
    | 'f' :: rest => expect ['a', 'l', 's', 'e'] rest
    | '-' :: rest => skipNumber rest
    | '"' :: rest => skipString rest
    | '[' :: rest => skipItems fuel true rest
    | '\x7b' :: rest => skipMembers fuel true rest
    | c :: rest => if isDigit c then skipNumber (c :: rest) else .error .malformed

def skipItems : Nat → Bool → List Char → Attempt (List Char)
  | 0, _, _ => .error .truncated
  | fuel + 1, first, cs => do
    match ← readSeparator first cs with
    | (false, rest) => return rest
    | (true, rest) => skipItems fuel false (← skipValue fuel rest)

def skipMembers : Nat → Bool → List Char → Attempt (List Char)
  | 0, _, _ => .error .truncated
  | fuel + 1, first, cs => do
    match skipBlanks cs with
    | [] => .error .truncated
    | '\x7d' :: rest => return rest
    | c :: rest =>
      let rest ← if first then pure (c :: rest) else expect [','] (c :: rest)
      match skipBlanks rest with
      | [] => .error .truncated
      | '"' :: rest =>
        let rest ← readColon (← skipString rest)
        skipMembers fuel false (← skipValue fuel rest)
      | _ :: _ => .error .malformed

end

/-! ### Documents of another shape than expected -/

def Number.description : Number → String
  | .whole n => "integer `" ++ toString n ++ "`"
  | .real x => "floating point `" ++ Decimal.documentLayout.text x ++ "`"

/-- What stands at the front of the text, as a message names it. An array or object is not read
further. -/
def describe (cs : List Char) : Attempt String :=
  match cs with
  | [] => .error .malformed
  | 'n' :: rest => do
    let _ ← expect ['u', 'l', 'l'] rest
    return "null"
  | 't' :: rest => do
    let _ ← expect ['r', 'u', 'e'] rest
    return "boolean `true`"
  | 'f' :: rest => do
    let _ ← expect ['a', 'l', 's', 'e'] rest
    return "boolean `false`"
  | '-' :: rest => do return (← readNumber true rest).1.description
  | '"' :: rest => do return "string " ++ Text.quoted (← readString rest).1
  | '[' :: _ => .ok "sequence"
  | '\x7b' :: _ => .ok "map"
  | c :: rest =>
    if isDigit c then do return (← readNumber false (c :: rest)).1.description
    else .error .malformed

/-- The fault of a text that holds something else than the schema asks for. -/
def unexpected {α : Type} (schema : Schema) (cs : List Char) : Attempt α := do
  let found ← describe cs
  .error (.mismatched ("invalid type: " ++ found ++ ", expected " ++ schema.label))

/-! ### Documents of the expected shape -/

/-- The end of an array, after all items that the schema names. -/
def closeArray (cs : List Char) : Attempt (List Char) :=
  match skipBlanks cs with
  | [] => .error .truncated
  | ']' :: rest => .ok rest
  | _ :: _ => .error .malformed

/-- Members with one text each; of two with one name the later counts. -/
def readTextMembers : Nat → Bool → List (String × Json) → List Char → Attempt (Json × List Char)
  | 0, _, _, _ => .error .truncated
  | fuel + 1, first, acc, cs => do
    match ← readName first cs with
    | (none, rest) => return (.object acc, rest)
    | (some name, rest) =>
      match skipBlanks (← readColon rest) with
      | [] => .error .truncated
      | '"' :: rest =>
        let (s, rest) ← readString rest
        readTextMembers fuel false (insertMember name (.string s) acc) rest
      | c :: rest => unexpected .text (c :: rest)

/-- Adds `null` for every optional member left out; another member left out is a fault. -/
def completeRecord : List (String × Schema) → List (String × Json) → Attempt Json
  | [], acc => .ok (.object acc)
  | (name, schema) :: fields, acc =>
    if (acc.lookup name).isSome then completeRecord fields acc
    else if schema.isOptional then completeRecord fields (insertMember name .null acc)
    else .error (.mismatched ("missing field `" ++ name ++ "`"))

mutual

def readAs : Nat → Nat → Schema → List Char → Attempt (Json × List Char)
  | 0, _, _, _ => .error .truncated
  | fuel + 1, depth, schema, cs =>
    match skipBlanks cs with
    | [] =>
      match schema with
      | .optional inner => readAs fuel depth inner []
      | _ => .error .truncated
    | c :: rest =>
      match schema with
      | .optional inner =>
        if c = 'n' then do return (.null, ← expect ['u', 'l', 'l'] rest)
        else readAs fuel depth inner (c :: rest)
      | .text =>
        if c = '"' then do
          let (s, rest) ← readString rest
          return (.string s, rest)
        else unexpected .text (c :: rest)
      | .flag =>
        if c = 't' then do return (.bool true, ← expect ['r', 'u', 'e'] rest)
        else if c = 'f' then do return (.bool false, ← expect ['a', 'l', 's', 'e'] rest)
        else unexpected .flag (c :: rest)
      | .real =>
        if c = '-' then do
          let (n, rest) ← readNumber true rest
          return (.number n, rest)
        else if isDigit c then do
          let (n, rest) ← readNumber false (c :: rest)
          return (.number n, rest)
        else unexpected .real (c :: rest)
      | .textMap =>
        if c = '\x7b' then
          match depth with
          | 0 => .error .malformed
          | _ + 1 => readTextMembers fuel true [] rest
        else unexpected .textMap (c :: rest)
      | .record name fields =>
        if c = '\x7b' then
          match depth with
          | 0 => .error .malformed
          | depth + 1 => readRecord fuel depth fields true [] rest
        else if c = '[' then
          match depth with
          | 0 => .error .malformed
          | depth + 1 => readTuple fuel depth name fields fields 0 [] rest
        else unexpected (.record name fields) (c :: rest)

def readRecord : Nat → Nat → List (String × Schema) → Bool → List (String × Json) → List Char →
    Attempt (Json × List Char)
  | 0, _, _, _, _, _ => .error .truncated
  | fuel + 1, depth, fields, first, acc, cs => do
    match ← readName first cs with
    | (none, rest) => return (← completeRecord fields acc, rest)
    | (some name, rest) =>
      match fields.lookup name with
      | some schema =>
        if (acc.lookup name).isSome then
          .error (.mismatched ("duplicate field `" ++ name ++ "`"))
        else
          let rest ← readColon rest
          let (value, rest) ← readAs fuel depth schema rest
          readRecord fuel depth fields false (insertMember name value acc) rest
      | none =>
        let rest ← skipValue (fuelFor rest) (← readColon rest)
        readRecord fuel depth fields false acc rest

/-- The members of a record as items of an array, in the order of the schema. -/
def readTuple : Nat → Nat → String → List (String × Schema) → List (String × Schema) → Nat →
    List (String × Json) → List Char → Attempt (Json × List Char)
  | 0, _, _, _, _, _, _, _ => .error .truncated
  | _, _, _, _, [], _, acc, cs => do return (.object acc, ← closeArray cs)
  | fuel + 1, depth, record, fields, (name, schema) :: left, index, acc, cs => do
    match ← readSeparator (index == 0) cs with
    | (false, _) =>
      .error (.mismatched ("invalid length " ++ toString index ++ ", expected struct " ++ record ++
        " with " ++ toString fields.length ++ " elements"))
    | (true, rest) =>
      let (value, rest) ← readAs fuel depth schema rest
      readTuple fuel depth record fields left (index + 1) (insertMember name value acc) rest

end

def Schema.parse (schema : Schema) (text : String) : Attempt Json := do
  let cs := text.toList
  finish (← readAs (fuelFor cs) nestingLimit schema cs)

end MooseHerd.Json
