import MooseHerd.Decimal.Layout
import MooseHerd.Json.Printer
import MooseHerd.Log.Event
import MooseHerd.Text.Quoted
import MooseHerd.Text.Split

/-! Reports as lines of text: a plain one for people and a document for programs. -/

namespace MooseHerd.Log

/-- How lines are written. -/
inductive Layout where
  | plain
  | document
  deriving Repr, BEq, DecidableEq

def FieldValue.plainText : FieldValue → String
  | text s => Text.quoted s
  | shown s => s
  | count n => toString n
  | real x => Decimal.logLayout.text x
  | flag b => if b then "true" else "false"

def FieldValue.document : FieldValue → Json
  | text s | shown s => .string s
  | count n => .ofNat n
  | real x => .ofFloat x
  | flag b => .bool b

/-- The characters of a message in a plain line: those that would steer a terminal are written as
escapes. -/
def plainChar (c : Char) : List Char :=
  let n := c.toNat
  if n = 0x1b ∨ n = 0x07 ∨ n = 0x08 ∨ n = 0x0c ∨ n = 0x7f then
    ['\\', 'x', Json.hexDigit (n / 16), Json.hexDigit (n % 16)]
  else if 0x80 ≤ n ∧ n ≤ 0x9f then Text.bracedEscape c
  else [c]

/-- The time if there is one, the level at a width of five, the message and the fields. -/
def Event.plainLine (time : Option String) (event : Event) : String :=
  let level := event.level.label
  (match time with
    | some time => time ++ " "
    | none => "") ++
    String.ofList (List.replicate (5 - level.length) ' ') ++ level ++ " " ++
    String.ofList (event.message.toList.flatMap plainChar) ++
    String.join (event.fields.map fun (name, value) => " " ++ name ++ "=" ++ value.plainText)

def memberText (name : String) (value : List Char) : List Char :=
  Json.quote name ++ ':' :: value

def objectText (members : List (List Char)) : List Char :=
  '\x7b' :: (Text.joinWith [','] members ++ ['\x7d'])

/-- The time if there is one, the level, the message with the fields and the target, in this
order. -/
def Event.documentLine (time : Option String) (event : Event) : String :=
  let fields := ("message", FieldValue.text event.message) :: event.fields
  let stamp := match time with
    | some time => [memberText "timestamp" (Json.quote time)]
    | none => []
  String.ofList <| objectText <| stamp ++ [
    memberText "level" (Json.quote event.level.label),
    memberText "fields" (objectText (fields.map fun (name, value) =>
      memberText name (Json.compactChars value.document))),
    memberText "target" (Json.quote event.target)]

def Layout.line (layout : Layout) (time : Option String) (event : Event) : String :=
  match layout with
  | .plain => event.plainLine time
  | .document => event.documentLine time

end MooseHerd.Log
