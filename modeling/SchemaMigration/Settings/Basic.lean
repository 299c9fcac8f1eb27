import SchemaMigration.Datum
import SchemaMigration.History.Table
import SchemaMigration.Yaml.Cursor

namespace SchemaMigration

inductive SettingsError
  | missingFile (name : String)
  | unreadableFile (name : String)
  | longName
  | notText
  | noMapping (name : String)
  | content (f : Yaml.Fault)
  | unknownNames (names : List String)
  | namelessSetting
  | longLevel
  | noUrl
  deriving DecidableEq, Repr

def Yaml.Fault.message : Yaml.Fault → String
  | .malformed => "the text is malformed"
  | .number e => e.message
  | .time e => e.message
  | .noTruth word => word
  | .noTime => "no point in time"
  | .noDigit => "a number has no digits"
  | .noCharacter _ => "chr() arg not in range(0x110000)"
  | .large => "a number is too large"
  | .deep => "values are too deep"

def SettingsError.message : SettingsError → String
  | .missingFile name => "Configuration file not found: " ++ name
  | .unreadableFile name => "Failed to load config " ++ name ++ ": the content is not readable"
  | .longName => "the name of the file is too long"
  | .notText => "the file holds no text"
  | .noMapping name => "Configuration file " ++ name ++ " must contain a mapping"
  | .content f => f.message
  | .unknownNames names => "Unknown configuration keys: " ++ Text.join ", " names
  | .namelessSetting => "the name of a setting is no text"
  | .longLevel => longText ++ longEnd
  | .noUrl => "No database URL given; use --url or the config file"

abbrev GivenSettings := List (Datum × Datum)

structure Settings where
  url : Datum := .null
  changelog : Datum := .null
  defaultSchema : Datum := .null
  historyTable : Datum := .text defaultHistoryTable
  ignoreCase : Datum
  dryRun : Datum := .plain (.bool false)
  echo : Datum := .plain (.bool false)
  logLevel : String := "INFO"

namespace Settings

def names : List String :=
  ["url", "changelog", "default_schema", "changelog_table", "case_insensitive_paths", "dry_run",
    "echo", "log_level"]

def platform : String := "linux"

def isKnown (name : Datum) : Bool := (name.text?.map names.contains).getD false

def unknownError (unknown : List Datum) : SettingsError :=
  match unknown.mapM Datum.text? with
  | some names => .unknownNames (names.mergeSort fun a b => decide (a ≤ b))
  | none => .namelessSetting

def given (entries : GivenSettings) (name : String) (default? : Datum) : Datum :=
  ((entries.find? fun (k, _) => k.text? == some name).map (·.2)).getD default?

/-- The settings that are given; the others have their defaults. A policy on letter case that is
null is that of the platform. -/
def ofGiven (entries : GivenSettings) : Except SettingsError Settings :=
  let unknown := (entries.map (·.1)).filter fun k => !isKnown k
  let ignoreCase := given entries "case_insensitive_paths" .null
  let level := given entries "log_level" (.text "INFO")
  if !unknown.isEmpty then .error (unknownError unknown)
  else if level.isTooLong then .error .longLevel
  else
    .ok {
      url := given entries "url" .null
      changelog := given entries "changelog" .null
      defaultSchema := given entries "default_schema" .null
      historyTable := given entries "changelog_table" (.text defaultHistoryTable)
      ignoreCase :=
        if ignoreCase.isNull then .plain (.bool (Path.platformIgnoresCase platform)) else ignoreCase
      dryRun := given entries "dry_run" (.plain (.bool false))
      echo := given entries "echo" (.plain (.bool false))
      logLevel := Text.upper level.display }

def toValue (s : Settings) : Value :=
  .object [("url", s.url.toValue), ("changelog", s.changelog.toValue),
    ("default_schema", s.defaultSchema.toValue), ("changelog_table", s.historyTable.toValue),
    ("case_insensitive_paths", s.ignoreCase.toValue), ("dry_run", s.dryRun.toValue),
    ("echo", s.echo.toValue), ("log_level", .text s.logLevel)]

def override (entries later : GivenSettings) : GivenSettings :=
  later.foldl (fun entries (k, v) => Datum.putEntry k v entries) entries

def levelNumbers : List (String × Nat) := [
  ("NOTSET", 0), ("DEBUG", 10), ("INFO", 20), ("WARN", 30), ("WARNING", 30), ("ERROR", 40),
  ("FATAL", 50), ("CRITICAL", 50)]

inductive LevelError
  | format
  | table
  | notText
  deriving DecidableEq, Repr

def LevelError.message : LevelError → String
  | .format => "Unknown level: " ++ Text.quoted "%(levelname)s:%(name)s:%(message)s"
  | .table => "a table of formats is no level"
  | .notText => "a level is named by a text"

def levelNumber (level : Value) : Except LevelError Nat :=
  match level with
  | .text name =>
    let name := Text.upper name
    if name == "BASIC_FORMAT" then .error .format
    else if name == "_STYLES" then .error .table
    else .ok ((levelNumbers.lookup name).getD 20)
  | _ => .error .notText

end Settings

end SchemaMigration
