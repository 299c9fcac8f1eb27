import SchemaMigration.Text.Blank
import SchemaMigration.Value.Comparison

namespace SchemaMigration

inductive Misfit
  | unfit
  /-- It lacks what is asked of it, as a number has no blanks that it could be trimmed of. -/
  | lacking
  deriving DecidableEq, Repr

def Misfit.message : Misfit → String
  | .unfit => "a value is of the wrong kind"
  | .lacking => "a value lacks what is asked of it"

/-- A name as it is declared: a text, null if there is none, or a value that is no name in the
end. -/
abbrev Name := Value

namespace Value

def kindName : Value → String
  | .null => "NoneType"
  | .bool _ => "bool"
  | .int _ => "int"
  | .float _ => "float"
  | .text _ => "str"
  | .list _ => "list"
  | .object _ => "dict"

def written : Value → Except Misfit String
  | .text s => .ok s
  | _ => .error .lacking

def onlyText : Value → Except Misfit String
  | .text s => .ok s
  | _ => .error .unfit

def nameText (v : Value) : Except Misfit String :=
  match v with
  | .text s => .ok s
  | v => .error (if v.isKey then .lacking else .unfit)

def trimmed? (v : Value) : Except Misfit (Option String) :=
  match v with
  | .null => .ok none
  | v => v.written.map Text.trimmed?

def elements : Value → Except Misfit (List Value)
  | .list vs => .ok vs
  | .text s => .ok (s.toList.map fun c => .text (String.singleton c))
  | .object fs => .ok (fs.map fun f => .text f.1)
  | _ => .error .unfit

def unlessNull (v w : Value) : Value := if v.isNull then w else v

@[simp] theorem written_text (s : String) : (Value.text s).written = .ok s := rfl

@[simp] theorem nameText_text (s : String) : (Value.text s).nameText = .ok s := rfl

@[simp] theorem trimmed?_text (s : String) : (Value.text s).trimmed? = .ok (Text.trimmed? s) := rfl

@[simp] theorem trimmed?_ofText? (s : Option String) :
    (Value.ofText? s).trimmed? = .ok (Text.nonBlank? s) := by
  cases s <;> rfl

end Value

end SchemaMigration
