import SchemaMigration.Settings.Basic

namespace SchemaMigration.Settings

def trueTexts : List String := ["true", "yes", "on"]

def falseTexts : List String := ["false", "no", "off"]

def nullTexts : List String := ["null", "none", ""]

def numberOf? (s : String) : Option Value :=
  if s.toList.contains '.' then (Number.ofPointed? s).map .float
  else (Number.ofWhole? s).map .int

def jsonFault : Json.ReadError → Yaml.Fault
  | .malformed => .malformed
  | .long digits => .number (.long digits)
  | .deep => .deep

def compoundOf (s : String) : Except SettingsError Value :=
  if s.toList.head? == some '[' || s.toList.head? == some '{' then
    match Json.read s with
    | .ok v => .ok v
    | .error .malformed => .ok (.text s)
    | .error e => .error (.content (jsonFault e))
  else .ok (.text s)

def valueOf (s : String) : Except SettingsError Value :=
  let lowered := Text.lower s
  if trueTexts.contains lowered then .ok (.bool true)
  else if falseTexts.contains lowered then .ok (.bool false)
  else if nullTexts.contains lowered then .ok .null
  else
    match numberOf? s with
    | some v => .ok v
    | none => compoundOf s

def variableStart : String := "SCHEMASHIFT"

def settingOf? (start name : String) : Option String :=
  let start := (start ++ "_").toList
  if start.isPrefixOf name.toList then
    let name := Text.lower (String.ofList (name.toList.drop start.length))
    if names.contains name then some name else none
  else none

def ofVariables (start : String) (environment : List (String × String)) :
    Except SettingsError GivenSettings :=
  environment.foldlM (fun entries (name, s) =>
    match settingOf? start name with
    | some name => do
      let v ← valueOf s
      return Datum.putEntry (.text name) (.ofValue v) entries
    | none => return entries) []

end SchemaMigration.Settings
