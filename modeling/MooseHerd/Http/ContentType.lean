import MooseHerd.Text.Split

/-! The type of a content as a header tells it: two names with a slash between them, then parameters
after semicolons. The names of parameters are alike in any case of letters. -/

namespace MooseHerd.Http

structure ContentType where
  family : String
  member : String
  parameters : List (String × String)
  deriving Repr, BEq, DecidableEq, Inhabited

namespace ContentType

def isToken (c : Char) : Bool :=
  c.isAlphanum ||
    c ∈ ['!', '#', '$', '%', '&', '\'', '*', '+', '-', '.', '^', '_', '\x60', '|', '~']

def isQuotable (c : Char) : Bool := 0x20 ≤ c.toNat && c.toNat ≠ 0x7f

/-- The rest of a value between quotation marks, as it is written. It is never empty: a quotation
mark right after the opening one belongs to it. -/
def takeQuoted (acc : List Char) : List Char → Option (String × List Char)
  | [] => none
  | '\\' :: c :: rest => if isQuotable c then takeQuoted (c :: '\\' :: acc) rest else none
  | c :: rest =>
    if c = '"' ∧ acc ≠ [] then some (String.ofList acc.reverse, rest)
    else if isQuotable c then takeQuoted (c :: acc) rest
    else none

/-- A value and what follows it. An empty one can only be the last. -/
def takeValue (cs : List Char) : Option (String × List Char) :=
  match cs with
  | '"' :: rest => (takeQuoted [] rest).map fun (value, rest) => (value, rest.dropWhile (· = ' '))
  | cs =>
    let (value, rest) := cs.span isToken
    if value.isEmpty && !rest.isEmpty then none else some (String.ofList value, rest)

/-- Parameters with semicolons between them. -/
def parameters? : Nat → List Char → Option (List (String × String))
  | 0, _ => none
  | fuel + 1, cs =>
    match cs.dropWhile (· = ' ') with
    | [] => some []
    | cs => do
      let (name, rest) := cs.span isToken
      if name.isEmpty then none
      let (value, rest) ← match rest with
        | '=' :: rest => takeValue rest
        | _ => none
      let others ← match rest with
        | [] => some []
        | ';' :: rest => parameters? fuel rest
        | _ => none
      return (String.ofList name, value) :: others

/-- Reads the text of a header, which is in plain letters. -/
def parse? (s : String) : Option ContentType :=
  let (family, rest) := s.toList.span isToken
  match family, rest with
  | _ :: _, '/' :: rest =>
    let (member, rest) := rest.span isToken
    match member, rest with
    | member, [] => some ⟨String.ofList family, String.ofList member, []⟩
    | _ :: _, ';' :: rest =>
      (parameters? (rest.length + 1) rest).map (⟨String.ofList family, String.ofList member, ·⟩)
    | _, _ => none
  | _, _ => none

/-- The first value of the parameter with the name, which is given in small letters. -/
def parameter? (t : ContentType) (name : String) : Option String :=
  (t.parameters.find? fun (n, _) => n.toList.map Char.toLower = name.toList).map (·.2)

end ContentType

end MooseHerd.Http
