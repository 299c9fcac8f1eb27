import SchemaMigration.CommandLine.Invocation
import SchemaMigration.Reference
import SchemaMigration.Settings.File
import SchemaMigration.Sqlite.Connection
import SchemaMigration.Url.Place

namespace SchemaMigration.CommandLine

structure Site where
  files : FileTree := []
  environment : List (String × String) := []
  modules : Modules := []
  databases : List (String × Sqlite.Content) := []
  now : Timestamp

namespace Site

def fileKey (path : String) : String := String.ofList (Path.normalSlashed path.toList)

def stateAt (site : Site) (path : String) : FileState :=
  match site.databases.lookup (fileKey path) with
  | some content => if content.main.isEmpty then .content "" else .binary
  | none => site.files.stateAt path

def split (key : String) : String × String :=
  let segments := Text.splitOn '/' key.toList
  let name := (segments.getLast?).getD []
  let directory := Text.joinOn '/' segments.dropLast
  let root := if directory.isEmpty && segments.length != 1 then ['/'] else directory
  (String.ofList root, String.ofList name)

def hasDirectory (site : Site) (key : String) : Bool :=
  site.files.stateAt (split key).1 == .directory

def journalMark : String := "-journal"

def hasJournal (key : String) : Bool :=
  (split key).2.utf8ByteSize + journalMark.utf8ByteSize ≤ FileTree.greatestName

/-- The connection to the database at a place. An empty file, and one that is yet to be created, is
an empty database. -/
def connect (site : Site) (place : DatabasePlace) : Sqlite.Connection :=
  let connection : Sqlite.Connection := match place with
    | .memory => .opened false {}
    | .nowhere => .unreachable
    | .file path mode =>
      let key := fileKey path
      let isReadOnly := mode == .readOnly || !hasJournal key
      match site.databases.lookup key, site.files.stateAt key with
      | some content, _ => .opened isReadOnly content
      | none, .content text => if text == "" then .opened isReadOnly {} else .foreign
      | none, .binary => .foreign
      | none, .directory | none, .tooLong => .unreachable
      | none, .missing =>
        if mode == .create && site.hasDirectory key then .opened isReadOnly {} else .unreachable
  connection.on { now := site.now }

def keep (site : Site) (place : DatabasePlace) (connection : Sqlite.Connection) : Site :=
  match place, connection.content? with
  | .file path _, some content =>
    { site with databases := putPair (fileKey path) content.kept site.databases }
  | _, _ => site

def settings (site : Site) (i : Invocation) : Except SettingsError Settings := do
  let file? := i.config.map fun path => (path, site.stateAt path)
  let s ← Settings.load file? Settings.variableStart site.environment
  let s : Settings := {
    s with
    url := (i.url.map Datum.text).getD s.url
    changelog := (i.changelog.map Datum.text).getD s.changelog
    defaultSchema := (i.schema.map Datum.text).getD s.defaultSchema
    ignoreCase := (i.ignoreCase.map fun b => Datum.plain (.bool b)).getD s.ignoreCase
    logLevel := (i.logLevel.map Text.upper).getD s.logLevel }
  if s.url.isTrue then return s else .error .noUrl

end Site

end SchemaMigration.CommandLine
