import SchemaMigration.Number.Fixed
import SchemaMigration.Sqlite.Calendar
import SchemaMigration.Sqlite.Cell.Arithmetic
import SchemaMigration.Sqlite.Cell.Excerpt
import SchemaMigration.Sqlite.Cell.Pattern
import SchemaMigration.Sqlite.Document.Function
import SchemaMigration.Sqlite.Function.Numeric
import SchemaMigration.Sqlite.Occasion

namespace SchemaMigration.Sqlite.Function

def general : List (String × Nat × Option Nat) := [
  ("abs", 1, some 1), ("changes", 0, some 0), ("char", 0, none), ("coalesce", 2, none),
  ("concat", 1, none), ("concat_ws", 2, none), ("format", 0, none), ("glob", 2, some 2),
  ("hex", 1, some 1), ("ifnull", 2, some 2), ("iif", 3, some 3), ("instr", 2, some 2),
  ("last_insert_rowid", 0, some 0), ("length", 1, some 1), ("like", 2, some 3),
  ("likelihood", 2, some 2), ("likely", 1, some 1), ("load_extension", 1, some 2),
  ("lower", 1, some 1), ("ltrim", 1, some 2), ("max", 2, none), ("min", 2, none),
  ("nullif", 2, some 2), ("octet_length", 1, some 1), ("printf", 0, none), ("quote", 1, some 1),
  ("random", 0, some 0), ("randomblob", 1, some 1), ("replace", 3, some 3), ("round", 1, some 2),
  ("rtrim", 1, some 2), ("sign", 1, some 1), ("sqlite_compileoption_get", 1, some 1),
  ("sqlite_compileoption_used", 1, some 1), ("sqlite_log", 2, some 2),
  ("sqlite_source_id", 0, some 0), ("sqlite_version", 0, some 0), ("substr", 2, some 3),
  ("substring", 2, some 3), ("subtype", 1, some 1), ("total_changes", 0, some 0),
  ("trim", 1, some 2), ("typeof", 1, some 1), ("unhex", 1, some 2), ("unicode", 1, some 1),
  ("unlikely", 1, some 1), ("upper", 1, some 1), ("zeroblob", 1, some 1)]

def calendar : List (String × Nat × Option Nat) :=
  Calendar.functions.map fun name => if name == "timediff" then
    (name, 2, some 2) else (name, 0, none)

def arities : List (String × Nat × Option Nat) :=
  general ++ calendar ++ Numeric.functions ++ Document.functions

def restless : List String :=
  ["changes", "last_insert_rowid", "load_extension", "random", "randomblob", "total_changes"]

def takes (count : Nat) (least : Nat) (greatest : Option Nat) : Bool :=
  least ≤ count && (greatest.map fun n => decide (count ≤ n)).getD true

/-- The least or the greatest of cells; null if one of them is. Of equal ones it is the first, or
the last one of them if that is asked for. -/
def extreme (collation : Collation) (wanted : Ordering) (takesLast : Bool) : Cell → List Cell → Cell
  | best, [] => best
  | best, c :: rest =>
    if best.isNull || c.isNull then .null
    else
      let ord := Cell.compareWith collation c best
      extreme collation wanted takesLast
        (if ord == wanted || (takesLast && ord == .eq) then c else best) rest

def trimmed (args : List Cell) (left right : Bool) : Cell :=
  match args with
  | [.null] | [.null, _] | [_, .null] => .null
  | [t] => .text (String.ofList (Cell.trimOf [' '] t.toText.toList left right))
  | [t, members] =>
    .text (String.ofList (Cell.trimOf members.toText.toList t.toText.toList left right))
  | _ => .null

def joinedBy (between : String) (cells : List Cell) : String :=
  Text.join between ((cells.map Cell.toText).filter (· != ""))

def lengthOf : Cell → Cell
  | .null => .null
  | .bytes content => .int content.length
  | c => .int c.chars.length

def roundOf (t : Cell) (places : Cell) : Cell :=
  if t.isNull || places.isNull then .null
  else .real (Cell.rounded t.toReal (min (max places.toInt 0) 30).toNat)

def absoluteOf (c : Cell) : Except Fault Cell :=
  match c, c.number with
  | .int n, _ =>
    if n == -Cell.intLimit then .error (.late "integer overflow") else .ok (.int n.natAbs)
  | .null, _ => .ok .null
  | _, n => .ok (.real n.toReal.abs)

def charOf (c : Cell) : Char :=
  let n := c.toInt
  if 0 ≤ n && n ≤ 0x10FFFF && !(0xD800 ≤ n && n < 0xE000) then Char.ofNat n.toNat else '\uFFFD'

def placeOf (whole part : Cell) : Cell :=
  match whole, part with
  | .null, _ | _, .null => .null
  | .bytes a, .bytes b => .int (Cell.place b 0 a)
  | a, b => .int (Cell.place b.toText.toList 0 a.toText.toList)

def replaced (t old new : Cell) : Cell :=
  let s := t.toText.toList
  if t.isNull || old.isNull || new.isNull then .null
  else if old.toText == "" then .text t.toText
  else .text (String.ofList (Cell.replaceAll old.toText.toList new.toText.toList (s.length + 1) s))

def bytesOf (t members : Cell) : Cell :=
  if t.isNull || members.isNull then .null
  else (Cell.unhex? members.toText.toList t.chars).elim .null .bytes

def quotedOf : Cell → Cell
  | .text s => .text (Cell.text (String.ofList (Cell.text s).chars)).quoted
  | c => .text c.quoted

def release : String := "3.46.0"

def releaseMark : String :=
  "2024-05-23 13:25:27 96c92aba00c8375bc32fafcdf12429c58bd8aabfcadab6683e35bbb9cdebf19e"

def applyGeneral (o : Occasion) (collation : Collation) (name : String) (args : List Cell) :
    Except Fault Cell :=
  match name, args with
  | "abs", [c] => absoluteOf c
  | "changes", _ => .ok (.int o.changed)
  | "total_changes", _ => .ok (.int o.total)
  | "last_insert_rowid", _ => .ok (.int o.lastRow)
  | "char", cells => .ok (.text (String.ofList (cells.map charOf)))
  | "coalesce", cells | "ifnull", cells => .ok ((cells.find? fun c => !c.isNull).getD .null)
  | "concat", cells => .ok (.text (joinedBy "" cells))
  | "concat_ws", between :: cells =>
    .ok (if between.isNull then .null else .text (joinedBy between.toText cells))
  | "format", cells | "printf", cells => Format.line cells
  | "glob", [p, t] => Cell.like "GLOB" t p none
  | "like", [p, t] => Cell.like "LIKE" t p none
  | "like", [p, t, e] => Cell.like "LIKE" t p (some e)
  | "hex", [c] => .ok (.text (String.ofList (c.toBytes.flatMap (Text.hexDigits 2))).toUpper)
  | "iif", [t, a, b] => .ok (if t.truth == some true then a else b)
  | "instr", [a, b] => .ok (placeOf a b)
  | "length", [c] => .ok (lengthOf c)
  | "octet_length", [c] => .ok (if c.isNull then .null else .int c.toBytes.length)
  | "likelihood", c :: _ | "likely", c :: _ | "unlikely", c :: _ => .ok c
  | "load_extension", _ => .error (.late "not authorized")
  | "lower", [c] => .ok (if c.isNull then .null else .text c.toText.toLower)
  | "upper", [c] => .ok (if c.isNull then .null else .text c.toText.toUpper)
  | "trim", args => .ok (trimmed args true true)
  | "ltrim", args => .ok (trimmed args true false)
  | "rtrim", args => .ok (trimmed args false true)
  | "max", c :: cells => .ok (extreme collation .gt false c cells)
  | "min", c :: cells => .ok (extreme collation .lt true c cells)
  | "nullif", [a, b] =>
    .ok (if Cell.compareOperands? none collation a b == some .eq then .null else a)
  | "quote", [c] => .ok (quotedOf c)
  | "random", _ => .ok (.int 0)
  | "randomblob", [c] => .ok (.bytes (List.replicate (max 1 c.toInt).toNat 0))
  | "replace", [t, old, new] => .ok (replaced t old new)
  | "round", [t] => .ok (roundOf t (.int 0))
  | "round", [t, places] => .ok (roundOf t places)
  | "sign", [c] => .ok (Numeric.signOf c)
  | "sqlite_compileoption_used", _ => .ok (.int 0)
  | "sqlite_source_id", _ => .ok (.text releaseMark)
  | "sqlite_version", _ => .ok (.text release)
  | "substr", [t, start] | "substring", [t, start] => .ok (Cell.substring t start none)
  | "substr", [t, start, n] | "substring", [t, start, n] => .ok (Cell.substring t start (some n))
  | "typeof", [c] => .ok (.text c.kindName)
  | "unhex", [c] => .ok (bytesOf c (.text ""))
  | "unhex", [c, members] => .ok (bytesOf c members)
  | "unicode", [c] => .ok ((c.chars.head?.map fun d => Cell.int d.toNat).getD .null)
  | "zeroblob", [c] => .ok (.bytes (List.replicate c.toInt.toNat 0))
  | _, _ => .ok .null

def documentMark : Int := 74

def apply (o : Occasion) (collation : Collation) (name : String) (args : List Argument) :
    Except Fault Cell :=
  let n := name.toLower
  let cells := args.map Argument.cell
  if Calendar.functions.contains n then .ok (Calendar.apply (.ofTimestamp o.now) n cells)
  else if (Numeric.functions.lookup n).isSome then .ok (Numeric.apply n cells)
  else if (Document.functions.lookup n).isSome then Document.apply n args
  else if n == "subtype" then
    .ok (.int (if args.any Argument.isDocument then documentMark else 0))
  else applyGeneral o collation n cells

end SchemaMigration.Sqlite.Function
