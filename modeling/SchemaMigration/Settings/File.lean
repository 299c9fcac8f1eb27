import SchemaMigration.FileTree
import SchemaMigration.Settings.Environment
import SchemaMigration.Yaml.Document

namespace SchemaMigration.Settings

def isJsonName (path : String) : Bool :=
  let name := ((Text.splitOn '/' (FileTree.tidy path).toList).getLast?).getD []
  let extension := (name.reverse.takeWhile (· != '.')).reverse
  let stem := name.take (name.length - extension.length - 1)
  name.contains '.' && !stem.isEmpty && Text.lower (String.ofList extension) == "json"

def normalBreaks : List Char → List Char
  | '\r' :: '\n' :: rest => '\n' :: normalBreaks rest
  | '\r' :: rest => '\n' :: normalBreaks rest
  | c :: rest => c :: normalBreaks rest
  | [] => []

def contentError (name : String) : Yaml.Fault → SettingsError
  | .malformed => .unreadableFile name
  | f => .content f

def contentOf (isJson : Bool) (text : String) : Except Yaml.Fault Datum :=
  if isJson then ((Json.read text).map Datum.ofValue).mapError jsonFault
  else (Yaml.read text).map fun d => if d.isTrue then d else .mapping []

def ofFile (path : String) (state : FileState) : Except SettingsError GivenSettings :=
  let name := FileTree.tidy path
  match state with
  | .missing => .error (.missingFile name)
  | .directory => .error (.unreadableFile name)
  | .tooLong => .error .longName
  | .binary => .error .notText
  | .content text =>
    let text := String.ofList (normalBreaks text.toList)
    match contentOf (isJsonName path) text with
    | .ok (.mapping entries) => .ok entries
    | .ok _ => .error (.noMapping name)
    | .error f => .error (contentError name f)

def ofFile? : Option (String × FileState) → Except SettingsError GivenSettings
  | none => .ok []
  | some (path, state) => ofFile path state

def load (file? : Option (String × FileState)) (start : String)
    (environment : List (String × String)) :
    Except SettingsError Settings := do
  let fromFile ← ofFile? file?
  let fromVariables ← ofVariables start environment
  ofGiven (override fromFile fromVariables)

end SchemaMigration.Settings
