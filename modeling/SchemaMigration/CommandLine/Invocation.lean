import SchemaMigration.Number.Reading

namespace SchemaMigration.CommandLine

inductive Command
  | update
  | updateSql
  | rollback
  | status
  | history
  deriving DecidableEq, Repr

namespace Command

def name : Command → String
  | .update => "update"
  | .updateSql => "update-sql"
  | .rollback => "rollback"
  | .status => "status"
  | .history => "history"

def all : List Command := [.update, .updateSql, .rollback, .status, .history]

def ofName? (name : String) : Option Command := all.find? (·.name == name)

@[simp] theorem ofName?_name (c : Command) : ofName? c.name = some c := by
  cases c <;> decide

end Command

inductive Setting
  | url
  | config
  | changelog
  | schema
  | logLevel
  | count
  deriving DecidableEq, Repr

inductive Switch
  | ignoreCase
  | keepCase
  | dryRun
  | json
  deriving DecidableEq, Repr

inductive Knob
  | setting (s : Setting)
  | switch (s : Switch)
  deriving DecidableEq, Repr

def longNames : List (String × Knob) := [
  ("--url", .setting .url), ("--config", .setting .config), ("--changelog", .setting .changelog),
  ("--schema", .setting .schema), ("--case-insensitive-paths", .switch .ignoreCase),
  ("--case-sensitive-paths", .switch .keepCase), ("--log-level", .setting .logLevel),
  ("--count", .setting .count), ("--dry-run", .switch .dryRun), ("--json", .switch .json)]

def shortNames : List (Char × Setting) := [('c', .changelog), ('n', .count)]

def Command.takes (c : Command) : Knob → Bool
  | .setting .url | .setting .config | .setting .schema | .setting .logLevel => true
  | .setting .changelog | .switch .ignoreCase | .switch .keepCase => c != .history
  | .setting .count => c == .rollback
  | .switch .dryRun => c == .update || c == .rollback
  | .switch .json => c == .history

structure Invocation where
  command : Command
  url : Option String := none
  config : Option String := none
  changelog : Option String := none
  schema : Option String := none
  logLevel : Option String := none
  ignoreCase : Option Bool := none
  dryRun : Bool := false
  json : Bool := false
  countText : Option String := none
  deriving DecidableEq, Repr

namespace Invocation

def set (i : Invocation) (s : Setting) (text : String) : Invocation :=
  match s with
  | .url => { i with url := some text }
  | .config => { i with config := some text }
  | .changelog => { i with changelog := some text }
  | .schema => { i with schema := some text }
  | .logLevel => { i with logLevel := some text }
  | .count => { i with countText := some text }

def switchOn (i : Invocation) : Switch → Invocation
  | .ignoreCase => { i with ignoreCase := some true }
  | .keepCase => { i with ignoreCase := some false }
  | .dryRun => { i with dryRun := true }
  | .json => { i with json := true }

def countDigits? (s : List Char) : Option (List Char) :=
  let zeros := if s.head? == some '0' then s.takeWhile fun c => c == '0' || c == '_' else []
  match s.drop zeros.length with
  | [] => if zeros.getLast? == some '0' then some ['0'] else none
  | rest => Number.ungroup? false rest

def wholeCount? (s : String) : Option Int := do
  let (negative, body) := Number.sign (Number.trimMargins s.toList)
  let whole := body.takeWhile (· != '.')
  let zeros := (body.drop whole.length).drop 1
  let digits ← countDigits? whole
  if zeros.all (· == '0') && digits.all Json.isDigit && digits.length ≤ Json.greatestLength then
    return Number.signed negative (Json.digitsValue digits)
  else none

def count? (i : Invocation) : Option Nat :=
  match i.countText with
  | none => some 1
  | some s =>
    match wholeCount? s with
    | some (.ofNat n) => some n
    | _ => none

def knob? (c : Command) (arg : String) : Option (Knob × Option String) :=
  let written := arg.toList
  let name := String.ofList (written.takeWhile (· != '='))
  let value :=
    match written.dropWhile (· != '=') with
    | _ :: text => some (String.ofList text)
    | [] => none
  match longNames.lookup name, written with
  | some k, _ => if c.takes k then some (k, value) else none
  | none, '-' :: short :: text =>
    (shortNames.lookup short).bind fun s =>
      if c.takes (.setting s) then
        some (.setting s, if text.isEmpty then none else some (String.ofList text))
      else none
  | none, _ => none

def read (i : Invocation) : List String → Option Invocation
  | [] => some i
  | "--" :: rest => if rest.isEmpty then some i else none
  | arg :: rest =>
    match knob? i.command arg, rest with
    | some (.switch s, none), rest => (i.switchOn s).read rest
    | some (.setting s, some value), rest => (i.set s value).read rest
    | some (.setting s, none), value :: rest => (i.set s value).read rest
    | _, _ => none

def ofArguments (args : List String) : Option Invocation :=
  let args :=
    match args with
    | "--" :: rest => rest
    | args => args
  match args with
  | [] => none
  | name :: rest => do
    let c ← Command.ofName? name
    let i ← ({ command := c } : Invocation).read rest
    let _ ← i.count?
    return i

end Invocation

end SchemaMigration.CommandLine
