import SchemaMigration.CommandLine.Session
import SchemaMigration.Declaration.ChangeLog
import SchemaMigration.Sqlite.Script

namespace SchemaMigration.CommandLine

def textAt? (path : String) : IO (Option String) := do
  try
    let text ← IO.FS.readFile path
    return some text
  catch _ => return none

def timeNow : IO Timestamp :=
  IO.FS.withTempFile fun _ path => do
    let data ← path.metadata
    return .ofUnixSeconds data.modified.sec.toNat

def environmentNow : IO (List (String × String)) := do
  let found ← Settings.names.mapM fun name => do
    let key := Settings.variableStart ++ "_" ++ Text.upper name
    let text ← IO.getEnv key
    return text.map fun text => (key, text)
  return found.filterMap id

def moduleOf (path : String) (v : Value) : Module :=
  match v with
  | .object fields =>
    fields.map fun (name, declared) =>
      match ChangeLog.ofValue path declared with
      | .ok log => (name, .changeLog log)
      | .error _ => (name, .other)
  | _ => []

def valueIn? (text : Option String) : Option Value :=
  text.bind fun text => (Json.read text).toOption

def modulesFor (reference : Datum) : IO Modules := do
  let (name, _) := Modules.sides reference.display
  let path := name ++ ".json"
  let text ← textAt? path
  return ((valueIn? text).map fun v => (name, moduleOf path v)).toList

def withFile (site : Site) (path : String) : IO Site := do
  let text ← textAt? path
  return match text with
  | some text => { site with files := (path, text) :: site.files }
  | none => site

def contentOf? (text : String) : Option Sqlite.Content := do
  let .list items ← valueIn? (some text) | none
  let statements ← items.mapM fun
    | .text sql => some sql
    | _ => none
  (Sqlite.Content.ofScript statements).toOption

def withDatabase (site : Site) (path : String) (mode : FileMode) : IO Site := do
  let key := Site.fileKey path
  if mode == .create && (← textAt? key).isNone then
    try IO.FS.writeFile key "" catch _ => pure ()
  let site ← withFile site key
  return match (site.files.lookup key).bind contentOf? with
  | some content => { site with databases := [(key, content)] }
  | none => site

def siteFor (i : Invocation) : IO Site := do
  let now ← timeNow
  let environment ← environmentNow
  let site : Site := { environment := environment, now := now }
  let site ← match i.config with
    | some path => withFile site path
    | none => pure site
  match site.settings i with
  | .error _ => return site
  | .ok s =>
    let modules ← modulesFor s.changelog
    let site := { site with modules := modules }
    match Url.resolve s.url with
    | .ok (.file path mode) => withDatabase site path mode
    | _ => return site

def saveDatabases (site : Site) : IO Unit := do
  for (path, content) in site.databases do
    IO.FS.writeFile path (Json.indented (.list (content.script.map Value.text)) ++ "\n")

end SchemaMigration.CommandLine

open SchemaMigration CommandLine in
def main (args : List String) : IO UInt32 := do
  let site ← match Invocation.ofArguments args with
    | some i => siteFor i
    | none => pure { now := .ofUnixSeconds 0 }
  let (outcome, site) := run site args
  saveDatabases site
  IO.print outcome.output
  IO.eprint outcome.errorOutput
  match outcome with
  | .misused => IO.eprintln ("Commands: " ++ Text.join ", " (Command.all.map Command.name))
  | .brokenOff t => IO.eprintln t.message
  | _ => pure ()
  return outcome.exitCode.toUInt32
