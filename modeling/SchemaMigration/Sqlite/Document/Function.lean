import SchemaMigration.Sqlite.Document.Path
import SchemaMigration.Sqlite.Format

namespace SchemaMigration.Sqlite

structure Argument where
  cell : Cell
  isDocument : Bool := false
  deriving Repr

namespace Document

def malformed : Fault := .late "malformed JSON"

def badPath (path : List Char) : Fault :=
  .late ("bad JSON path: " ++ (Cell.text (String.ofList path)).toText)

def ofText (c : Cell) : Except Fault (Option Document) :=
  if c.isNull then .ok none
  else
    match read? c.toText with
    | some r => .ok (some r.found)
    | none => .error malformed

def realChars (x : Binary64) : List Char :=
  match x with
  | .infinite negative => (if negative then "-9e999" else "9e999").toList
  | x => (Cell.realText x).toList

def newRealChars (x : Binary64) : List Char :=
  { Cell.realDirective with zeros := true }.realChars .general false x

def ofArgument (real : Binary64 → List Char) (a : Argument) : Except Fault Document :=
  match a.cell with
  | .null => .ok .null
  | .int n => .ok (.number (toString n).toList)
  | .real x => .ok (.number (real x))
  | .text s =>
    if a.isDocument then
      match read? s with
      | some r => .ok r.found
      | none => .error malformed
    else .ok (.text (.plain s.toList))
  | .bytes _ => .error (.late "JSON cannot hold BLOB values")

def ofWhole? (path : List Char) : Except Fault (List Char) :=
  match path with
  | '$' :: rest => .ok rest
  | path => .error (badPath path)

def fuelFor (path : List Char) : Nat := path.length + 2

def part (d : Document) (path shown : List Char) : Except Fault (Option Document) :=
  match d.followed (fuelFor path) path with
  | .ok found => .ok (some found)
  | .error .missing => .ok none
  | .error .malformed => .error (badPath shown)

def partAt (d : Document) (c : Cell) : Except Fault (Option Document) := do
  let path := c.chars
  let steps ← ofWhole? path
  d.part steps path

def operandPath (c : Cell) : List Char :=
  let s := c.chars
  match c, s with
  | _, '$' :: rest => rest
  | .int _, s => '[' :: s ++ [']']
  | _, s =>
    if s.all Char.isAlphanum then '.' :: s
    else if s.head? == some '[' && 3 ≤ s.length && s.getLast? == some ']' then s
    else '.' :: '"' :: s ++ ['"']

def operand (asCell : Bool) (c path : Cell) : Except Fault Cell := do
  match ← ofText c with
  | none => return .null
  | some d =>
    if path.isNull then return .null
    else
      match ← d.part (operandPath path) path.chars with
      | none => return .null
      | some found => return if asCell then found.toCell else .text found.display

def changed (edit : Document → Edit) : Document → List Argument → Except Fault Document
  | d, path :: value :: rest => do
    if path.cell.isNull then changed edit d rest
    else
      let written := path.cell.chars
      let steps ← ofWhole? written
      let v ← ofArgument realChars value
      match d.edited (edit v) (fuelFor steps) steps with
      | .ok new => changed edit (new.getD d) rest
      | .error .missing => changed edit d rest
      | .error .malformed => .error (badPath written)
  | d, _ => .ok d

def without : Document → List Argument → Except Fault (Option Document)
  | d, [] => .ok (some d)
  | d, path :: rest => do
    if path.cell.isNull then return none
    else
      let written := path.cell.chars
      let steps ← ofWhole? written
      match d.edited .remove (fuelFor steps) steps with
      | .ok none => return none
      | .ok (some d) => without d rest
      | .error .missing => without d rest
      | .error .malformed => .error (badPath written)

def fieldsOf : List Argument → Except Fault (List (Lettering × Document))
  | ⟨.text name, _⟩ :: value :: rest => do
    let v ← ofArgument newRealChars value
    let more ← fieldsOf rest
    return (.plain name.toList, v) :: more
  | [] => .ok []
  | _ => .error (.late "json_object() labels must be TEXT")

def textOf (d : Document) : Cell := .text d.display

def functions : List (String × Nat × Option Nat) := [
  ("json", 1, some 1), ("json_array", 0, none), ("json_array_length", 1, some 2),
  ("json_error_position", 1, some 1), ("json_extract", 0, none), ("json_insert", 0, none),
  ("json_object", 0, none), ("json_patch", 2, some 2), ("json_pretty", 1, some 2),
  ("json_quote", 1, some 1), ("json_remove", 0, none), ("json_replace", 0, none),
  ("json_set", 0, none), ("json_type", 1, some 2), ("json_valid", 1, some 2)]

def told (f : Document → Cell) (d : Document) (path : List Argument) : Except Fault Cell :=
  match path with
  | [] => .ok (f d)
  | p :: _ =>
    if p.cell.isNull then .ok .null
    else (d.partAt p.cell).map fun found => (found.map f).getD .null

def lengthOf : Document → Cell
  | .list items => .int items.length
  | _ => .int 0

def extracted (d : Document) : List Argument → Except Fault (Option (List Document))
  | [] => .ok (some [])
  | p :: rest => do
    if p.cell.isNull then return none
    else
      let found ← d.partAt p.cell
      let more ← extracted d rest
      return more.map (found.getD .null :: ·)

def validity (c : Cell) (marks : Int) : Except Fault Cell :=
  if marks < 1 || 15 < marks then
    .error (.late "FLAGS parameter to json_valid() must be between 1 and 15")
  else if c.isNull then .ok .null
  else
    match read? c.toText with
    | none => .ok (.ofBool false)
    | some r => .ok (.ofBool (marks % 4 != 0 && (marks / 2 % 2 == 1 || r.isStandard)))

def applyTo (name : String) (d : Document) (rest : List Argument) : Except Fault Cell := do
  match name, rest with
  | "json_array_length", rest => told lengthOf d rest
  | "json_type", rest => told (fun d => .text d.kindName) d rest
  | "json_extract", [] => return .null
  | "json_extract", [p] => told toCell d [p]
  | "json_extract", paths =>
    let found ← extracted d paths
    return (found.map fun items => textOf (.list items)).getD .null
  | "json_insert", rest => return textOf (← changed .insert d rest)
  | "json_replace", rest => return textOf (← changed .replace d rest)
  | "json_set", rest => return textOf (← changed .set d rest)
  | "json_remove", rest => return ((← without d rest).map textOf).getD .null
  | "json_patch", [p] =>
    let change ← ofText p.cell
    return (change.map fun c => textOf (patched greatestDepth d c)).getD .null
  | "json_pretty", rest =>
    let indent := match rest with
      | p :: _ => if p.cell.isNull then List.replicate 4 ' ' else p.cell.chars
      | [] => List.replicate 4 ' '
    return .text (String.ofList (d.tallChars indent 0))
  | _, _ => return textOf d

def apply (name : String) (args : List Argument) : Except Fault Cell := do
  match name, args with
  | "json_array", args => return textOf (.list (← args.mapM (ofArgument newRealChars)))
  | "json_object", args =>
    if args.length % 2 == 1 then
      .error (.late "json_object() requires an even number of arguments")
    else return textOf (.object (← fieldsOf args))
  | "json_quote", [a] => return textOf (← ofArgument newRealChars a)
  | "json_valid", [a] => validity a.cell 1
  | "json_valid", [a, marks] => validity a.cell marks.cell.toInt
  | "json_error_position", [a] =>
    return if a.cell.isNull then .null else .int (if (read? a.cell.toText).isSome then 0 else 1)
  | name, a :: rest =>
    if ["json_insert", "json_replace", "json_set"].contains name && rest.length % 2 == 1 then
      .error (.late (name ++ "() needs an odd number of arguments"))
    else
      match ← ofText a.cell with
      | none => return .null
      | some d => applyTo name d rest
  | "json_extract", [] | "json_remove", [] => return .null
  | name, [] => .error (.late ("wrong number of arguments to function " ++ name ++ "()"))

def startsParts : Cell → Bool
  | .text s => s.toList.head? == some '[' || s.toList.head? == some '{'
  | _ => false

def givesDocument (name : String) (argCount : Nat) (result : Cell) : Bool :=
  match result with
  | .text _ =>
    if name == "json_extract" then argCount != 2 || startsParts result
    else
      ["json", "json_array", "json_group_array", "json_group_object", "json_insert", "json_object",
        "json_patch", "json_quote", "json_remove", "json_replace", "json_set"].contains name
  | _ => false

def listOfGroup (rows : List Argument) : Except Fault Cell := do
  return textOf (.list (← rows.mapM (ofArgument newRealChars)))

def objectOfGroup (rows : List (Cell × Argument)) : Except Fault Cell := do
  let fields ← (rows.filter fun (k, _) => !k.isNull).mapM fun (k, a) => do
    let v ← ofArgument newRealChars a
    return (Lettering.plain k.chars, v)
  return textOf (.object fields)

end Document

end SchemaMigration.Sqlite
