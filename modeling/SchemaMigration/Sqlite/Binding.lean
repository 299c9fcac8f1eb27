import SchemaMigration.Sqlite.Cell
import SchemaMigration.Value.Basic

namespace SchemaMigration.Sqlite

inductive BindingFault
  | overflow
  | unsupported
  deriving DecidableEq, Repr

namespace Cell

def ofValue : Value → Except BindingFault Cell
  | .null => .ok .null
  | .bool b => .ok (ofBool b)
  | .int n => if isInt n then .ok (.int n) else .error .overflow
  | .float x => .ok (ofReal x)
  | .text s => .ok (.text s)
  | .list _ | .object _ => .error .unsupported

def toValue : Cell → Value
  | .null => .null
  | .int n => .int n
  | .real x => .float x
  | c => .text c.toText

end Cell

namespace Affinity

def stored (a : Affinity) (v : Value) : Except BindingFault Value :=
  (Cell.ofValue v).map fun c => (a.apply c).toValue

@[simp] theorem stored_text (s : String) : text.stored (.text s) = .ok (.text s) := rfl

end Affinity

end SchemaMigration.Sqlite
