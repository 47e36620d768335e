import MooseHerd.Text.Quoted

/-! What can be wrong with settings before their values are looked at. -/

namespace MooseHerd

inductive Settings.Fault where
  /-- A file that is not written in the language it should be. -/
  | unparsable (reason : String)
  /-- A field without which there are no settings. -/
  | missing (field : String)
  /-- A value of another type than the field that it is for, with the path of the field and the
  layer that the value comes from, where they are known. -/
  | mismatch (found expected : String) (key origin : Option String)
  | message (text : String)
  deriving Repr, BEq, DecidableEq, Inhabited

def Settings.Fault.text : Settings.Fault → String
  | unparsable reason => reason
  | missing field => "missing configuration field " ++ Text.quoted field
  | mismatch found expected key origin =>
    "invalid type: " ++ found ++ ", expected " ++ expected ++
      (match key with
        | some key => " for key \x60" ++ key ++ "\x60"
        | none => "") ++
      (match origin with
        | some origin => " in " ++ origin
        | none => "")
  | message text => text

end MooseHerd
