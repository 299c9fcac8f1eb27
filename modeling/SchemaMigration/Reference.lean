import SchemaMigration.ChangeLog
import SchemaMigration.Datum

namespace SchemaMigration

inductive Attribute
  | changeLog (log : ChangeLog)
  | function (result : Attribute)
  | needy
  | other

abbrev Module := List (String × Attribute)

abbrev Modules := List (String × Module)

inductive ReferenceError
  | notGiven
  | notText (inBytes : Bool)
  | malformed (reference : String)
  | relative
  | noModule (module missing : String)
  | noPackage (module missing parent : String)
  | noAttribute (module name : String)
  | needy (reference : String)
  | noChangeLog (reference : String)
  deriving DecidableEq, Repr

def ReferenceError.message : ReferenceError → String
  | .notGiven => "No changelog given; use --changelog or the config file"
  | .notText _ => "a reference is a text"
  | .malformed reference =>
    "Changelog reference must be module:attribute, got " ++ Text.quoted reference
  | .relative => "a relative module name needs a package"
  | .noModule module missing =>
    "Cannot import changelog module " ++ module ++ ": No module named " ++ Text.quoted missing
  | .noPackage module missing parent =>
    "Cannot import changelog module " ++ module ++ ": No module named " ++ Text.quoted missing ++
      "; " ++ Text.quoted parent ++ " is not a package"
  | .noAttribute module name => "Module " ++ module ++ " has no attribute " ++ name
  | .needy reference => reference ++ " has to be given something"
  | .noChangeLog reference => reference ++ " is not a ChangeLog"

namespace Modules

def import? (modules : Modules) (name : String) : Except ReferenceError Module :=
  match modules.lookup name, Text.splitOn '.' name.toList with
  | some module, _ => .ok module
  | none, [] :: _ => .error .relative
  | none, first :: second :: _ =>
    let top := String.ofList first
    match modules.lookup top with
    | some _ => .error (.noPackage name (top ++ "." ++ String.ofList second) top)
    | none => .error (.noModule name top)
  | none, _ => .error (.noModule name name)

def changeLogOf (reference : String) : Attribute → Except ReferenceError ChangeLog
  | .changeLog log => .ok log
  | .function (.changeLog log) => .ok log
  | .needy => .error (.needy reference)
  | _ => .error (.noChangeLog reference)

def needyNames : List String :=
  ["__class__", "__delattr__", "__eq__", "__format__", "__ge__", "__getattribute__", "__gt__",
    "__init__", "__le__", "__lt__", "__ne__", "__new__", "__reduce__", "__reduce_ex__",
      "__setattr__"]

def plainNames : List String :=
  ["__annotations__", "__dict__", "__dir__", "__doc__", "__getstate__", "__hash__",
    "__init_subclass__", "__loader__", "__name__", "__package__", "__repr__",
      "__sizeof__", "__spec__", "__str__", "__subclasshook__"]

def ownAttributes : Module :=
  needyNames.map (fun name => (name, .needy)) ++ plainNames.map fun name => (name, .other)

def sides (reference : String) : String × String :=
  (String.ofList (reference.toList.takeWhile (· != ':')),
    String.ofList ((reference.toList.dropWhile (· != ':')).drop 1))

def resolveText (modules : Modules) (reference : String) : Except ReferenceError ChangeLog := do
  let (moduleName, attributeName) := sides reference
  if moduleName == "" || attributeName == "" then .error (.malformed reference)
  else
    let module ← modules.import? moduleName
    match module.lookup attributeName with
    | none => .error (.noAttribute moduleName attributeName)
    | some a => changeLogOf reference a

def resolve (modules : Modules) (reference : Datum) : Except ReferenceError ChangeLog :=
  if !reference.isTrue then .error .notGiven
  else
    match reference with
    | .plain (.text s) => modules.resolveText s
    | .bytes _ => .error (.notText true)
    | _ => .error (.notText false)

end Modules

end SchemaMigration
