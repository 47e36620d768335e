import MooseHerd.Toml.Scalar

/-! The statements of a configuration document as they are written: headers of tables, and keys with
values. A key is the way to a value, name by name. -/

namespace MooseHerd.Toml

/-- The names from a table to a value within it. -/
abbrev Key := List String

/-- A value as it is written. The members of a table still have keys. -/
inductive Written where
  | scalar (value : Toml)
  | array (items : List Written)
  | table (members : List (Key × Written))
  deriving Repr, Inhabited

inductive Statement where
  /-- The table that the following statements belong to. -/
  | table (key : Key)
  /-- The same, for a new table at the end of an array of tables. -/
  | element (key : Key)
  | assign (key : Key) (value : Written)
  deriving Repr, Inhabited

/-! ### Blanks and comments -/

def isBlank (c : Char) : Bool := c = ' ' || c = '\t'

def skipBlanks (cs : List Char) : List Char := cs.dropWhile isBlank

/-- A character that may stand for itself in comments and texts. -/
def isPlain (c : Char) : Bool := c = '\t' || (0x20 ≤ c.toNat && c.toNat ≠ 0x7f)

def lineBreak? : List Char → Option (List Char)
  | '\n' :: rest => some rest
  | '\r' :: '\n' :: rest => some rest
  | _ => none

def skipComment : List Char → List Char
  | '#' :: rest => rest.dropWhile isPlain
  | cs => cs

/-- Skips blanks, comments and line breaks. A comment ends at a line break or with the text. -/
def skipLines : Nat → List Char → List Char
  | 0, cs => cs
  | fuel + 1, cs =>
    let cs := skipComment (skipBlanks cs)
    match lineBreak? cs with
    | some rest => skipLines fuel rest
    | none => cs

def skipSpace (cs : List Char) : List Char := skipLines (cs.length + 1) cs

/-! ### Texts in quotation marks -/

def takeHex : Nat → Nat → List Char → Option (Nat × List Char)
  | 0, n, cs => some (n, cs)
  | _ + 1, _, [] => none
  | count + 1, n, c :: cs => do takeHex count (16 * n + (← Json.hexValue? c)) cs

/-- The character with a number of so many hexadecimal digits. -/
def takeCode (count : Nat) (cs : List Char) : Option (Char × List Char) := do
  let (n, rest) ← takeHex count 0 cs
  if n.isValidChar then some (Char.ofNat n, rest) else none

/-- The character of an escape, after the backslash. -/
def takeEscape : List Char → Option (Char × List Char)
  | 'b' :: rest => some ('\x08', rest)
  | 't' :: rest => some ('\t', rest)
  | 'n' :: rest => some ('\n', rest)
  | 'f' :: rest => some ('\x0c', rest)
  | 'r' :: rest => some ('\r', rest)
  | 'e' :: rest => some ('\x1b', rest)
  | '"' :: rest => some ('"', rest)
  | '\\' :: rest => some ('\\', rest)
  | 'x' :: rest => takeCode 2 rest
  | 'u' :: rest => takeCode 4 rest
  | 'U' :: rest => takeCode 8 rest
  | _ => none

/-- The rest of a text on one line, with escapes. -/
def takeBasic : Nat → List Char → List Char → Option (String × List Char)
  | 0, _, _ => none
  | _, _, [] => none
  | _, acc, '"' :: rest => some (String.ofList acc.reverse, rest)
  | fuel + 1, acc, '\\' :: rest => do
    let (c, rest) ← takeEscape rest
    takeBasic fuel (c :: acc) rest
  | fuel + 1, acc, c :: rest => if isPlain c then takeBasic fuel (c :: acc) rest else none

/-- The rest of a text on one line, as it stands. -/
def takeLiteral (cs : List Char) : Option (String × List Char) :=
  let (content, rest) := cs.span fun c => isPlain c && c ≠ '\''
  match rest with
  | '\'' :: rest => some (String.ofList content, rest)
  | _ => none

/-- Skips the white space between a backslash at the end of a line and the next other character. -/
def skipContinuation (cs : List Char) : Option (List Char) := do
  let rest ← lineBreak? (skipBlanks cs)
  return rest.dropWhile fun c => isBlank c || c = '\n' || c = '\r'

/-- Up to two quotation marks may stand right before the closing ones. -/
def closeLong (mark : Char) (acc : List Char) : List Char → String × List Char
  | a :: b :: rest =>
    if a = mark ∧ b = mark then (String.ofList (mark :: mark :: acc).reverse, rest)
    else if a = mark then (String.ofList (mark :: acc).reverse, b :: rest)
    else (String.ofList acc.reverse, a :: b :: rest)
  | [a] => if a = mark then (String.ofList (mark :: acc).reverse, []) else
    (String.ofList acc.reverse, [a])
  | [] => (String.ofList acc.reverse, [])

/-- The rest of a text of several lines. With `escapes`, a backslash begins an escape or takes up
the line break after it. -/
def takeLong (mark : Char) (escapes : Bool) :
    Nat → List Char → List Char → Option (String × List Char)
  | 0, _, _ => none
  | _, _, [] => none
  | fuel + 1, acc, c :: rest =>
    if c = mark then
      match rest with
      | a :: b :: rest =>
        if a = mark ∧ b = mark then some (closeLong mark acc rest)
        else takeLong mark escapes fuel (c :: acc) (a :: b :: rest)
      | _ => none
    else if escapes ∧ c = '\\' then
      match skipContinuation rest with
      | some rest => takeLong mark escapes fuel acc rest
      | none => do
        let (c, rest) ← takeEscape rest
        takeLong mark escapes fuel (c :: acc) rest
    else if c = '\n' ∨ (c = '\r' ∧ rest.head? = some '\n') ∨ isPlain c then
      takeLong mark escapes fuel (c :: acc) rest
    else none

/-- The line break right after the opening marks does not belong to the text. -/
def openLong (mark : Char) (escapes : Bool) (cs : List Char) : Option (String × List Char) :=
  takeLong mark escapes (cs.length + 1) [] ((lineBreak? cs).getD cs)

/-- A text in quotation marks of one kind; `long` allows for three of them. -/
def takeText (long : Bool) : List Char → Option (String × List Char)
  | '"' :: '"' :: '"' :: rest =>
    if long then openLong '"' true rest else some ("", '"' :: rest)
  | '\'' :: '\'' :: '\'' :: rest =>
    if long then openLong '\'' false rest else some ("", '\'' :: rest)
  | '"' :: rest => takeBasic (rest.length + 1) [] rest
  | '\'' :: rest => takeLiteral rest
  | _ => none

/-! ### Keys -/

def isBare (c : Char) : Bool := c.isAlphanum || c = '-' || c = '_'

def takeName (cs : List Char) : Option (String × List Char) :=
  match cs.span isBare with
  | ([], rest) => takeText false rest
  | (name, rest) => some (String.ofList name, rest)

/-- The names of a key, with dots between them. Blanks around them are skipped. -/
def takeKeyWithin : Nat → List Char → Option (Key × List Char)
  | 0, _ => none
  | fuel + 1, cs => do
    let (name, rest) ← takeName (skipBlanks cs)
    match skipBlanks rest with
    | '.' :: rest => do
      let (names, rest) ← takeKeyWithin fuel rest
      return (name :: names, rest)
    | rest => return ([name], rest)

def takeKey (cs : List Char) : Option (Key × List Char) := takeKeyWithin (cs.length + 1) cs

/-! ### Values -/

def endsScalar (c : Char) : Bool :=
  c ∈ [' ', '\t', '\n', '\r', ',', ']', '\x7d', '#', '=', '"', '\'', '[', '\x7b']

/-- A value without quotation marks or brackets. A single blank may stand between a date and a
time. -/
def takeScalar (cs : List Char) : Option (Written × List Char) := do
  let (run, rest) := cs.span (!endsScalar ·)
  let (run, rest) := match takeDate? run, rest with
    | some (_, []), ' ' :: d :: more =>
      if d.isDigit then
        let (time, rest) := (d :: more).span (!endsScalar ·)
        (run ++ ' ' :: time, rest)
      else (run, rest)
    | _, _ => (run, rest)
  return (.scalar (← scalar? run), rest)

/-- How deep arrays and tables within values may be nested. -/
def nestingLimit : Nat := 80

mutual

/-- A value. `depth` levels of arrays and tables may still be opened. -/
def takeValue : Nat → Nat → List Char → Option (Written × List Char)
  | 0, _, _ => none
  | fuel + 1, depth, cs =>
    match cs with
    | '"' :: _ | '\'' :: _ => (takeText true cs).map fun (s, rest) => (.scalar (.text s), rest)
    | '[' :: rest =>
      match depth with
      | 0 => none
      | depth + 1 => takeItems fuel depth [] (skipSpace rest)
    | '\x7b' :: rest =>
      match depth with
      | 0 => none
      | depth + 1 => takeMembers fuel depth [] (skipSpace rest)
    | cs => takeScalar cs

/-- The items of an array after those already read. A comma may follow the last one. -/
def takeItems : Nat → Nat → List Written → List Char → Option (Written × List Char)
  | 0, _, _, _ => none
  | _, _, acc, ']' :: rest => some (.array acc.reverse, rest)
  | fuel + 1, depth, acc, cs => do
    let (item, rest) ← takeValue fuel depth cs
    match skipSpace rest with
    | ',' :: rest => takeItems fuel depth (item :: acc) (skipSpace rest)
    | ']' :: rest => some (.array (item :: acc).reverse, rest)
    | _ => none

/-- The members of a table within a value, after those already read. -/
def takeMembers : Nat → Nat → List (Key × Written) → List Char → Option (Written × List Char)
  | 0, _, _, _ => none
  | _, _, acc, '\x7d' :: rest => some (.table acc.reverse, rest)
  | fuel + 1, depth, acc, cs => do
    let (key, rest) ← takeKey cs
    match rest with
    | '=' :: rest =>
      let (value, rest) ← takeValue fuel depth (skipBlanks rest)
      match skipSpace rest with
      | ',' :: rest => takeMembers fuel depth ((key, value) :: acc) (skipSpace rest)
      | '\x7d' :: rest => some (.table ((key, value) :: acc).reverse, rest)
      | _ => none
    | _ => none

end

/-! ### Statements -/

def takeStatement : List Char → Option (Statement × List Char)
  | '[' :: '[' :: rest => do
    match ← takeKey rest with
    | (key, ']' :: ']' :: rest) => return (.element key, rest)
    | _ => none
  | '[' :: rest => do
    match ← takeKey rest with
    | (key, ']' :: rest) => return (.table key, rest)
    | _ => none
  | cs => do
    match ← takeKey cs with
    | (key, '=' :: rest) =>
      let rest := skipBlanks rest
      let (value, rest) ← takeValue (2 * rest.length + 2) nestingLimit rest
      return (.assign key value, rest)
    | _ => none

/-- A statement takes its line to the end. -/
def endLine? (cs : List Char) : Option (List Char) :=
  match skipComment (skipBlanks cs) with
  | [] => some []
  | cs => lineBreak? cs

def takeStatements : Nat → List Char → Option (List Statement)
  | 0, _ => none
  | fuel + 1, cs =>
    match skipSpace cs with
    | [] => some []
    | cs => do
      let (statement, rest) ← takeStatement cs
      return statement :: (← takeStatements fuel (← endLine? rest))

/-- The statements of a document. A byte order mark in front of them does not count. -/
def statements? (text : String) : Option (List Statement) :=
  let cs := match text.toList with
    | '\ufeff' :: cs => cs
    | cs => cs
  takeStatements (cs.length + 1) cs

end MooseHerd.Toml
