import SchemaMigration.Action
import SchemaMigration.History.Table
import SchemaMigration.Json.Printer
import SchemaMigration.Reference
import SchemaMigration.Report
import SchemaMigration.Settings.Basic
import SchemaMigration.Sqlite.Fault
import SchemaMigration.Url.Place

namespace SchemaMigration

def ChangeError.isReported : ChangeError → Bool
  | .misfit _ => false
  | .render (.unsupported ..) => true
  | .render _ => false
  | _ => true

def StoreError.isReported : StoreError → Bool
  | .refused .. => true
  | _ => false

def Failure.isReported : Failure → Bool
  | .change e => e.isReported
  | .store e => e.isReported
  | .engine (.foreign ..) => false
  | .negativeCount _ => false
  | _ => true

def SettingsError.isReported : SettingsError → Bool
  | .missingFile _ | .unreadableFile _ | .noMapping _ | .unknownNames _ | .noUrl => true
  | .longName | .notText | .content _ | .namelessSetting | .longLevel => false

def UrlError.isReported : UrlError → Bool
  | .notText _ | .unreadable | .unknownPlugin _ | .unknownDialect _ | .hasHost _ => true
  | .badNumber _ | .longName | .noDialect | .noDriver _ | .option _ => false

def ReferenceError.isReported : ReferenceError → Bool
  | .notText _ | .relative | .needy _ => false
  | _ => true

namespace CommandLine

inductive Trouble
  | settings (e : SettingsError)
  | url (e : UrlError)
  | database (f : Sqlite.Fault)
  | table (e : NameFault)
  | reference (e : ReferenceError)
  | failure (e : Failure)

namespace Trouble

def message : Trouble → String
  | .settings e => e.message
  | .url e => e.message
  | .database f => f.message
  | .table _ => "the history table has no name"
  | .reference e => e.message
  | .failure e => e.message

/-- Troubles are reported to the user, except those that come from values of the wrong kind, from
what is not installed, or from changes that nothing can be done with: they break the program off. -/
def isReported : Trouble → Bool
  | .settings e => e.isReported
  | .url e => e.isReported
  | .database _ => true
  | .table _ => false
  | .reference e => e.isReported
  | .failure e => e.isReported

end Trouble

inductive Outcome
  | misused
  | done (output : String)
  | refused (message : String)
  | brokenOff (t : Trouble)

namespace Outcome

def ofTrouble (t : Trouble) : Outcome := if t.isReported then .refused t.message else .brokenOff t

def exitCode : Outcome → Nat
  | .misused => 2
  | .done _ => 0
  | .refused _ => 1
  | .brokenOff _ => 1

/-- Takes commands to a terminal out of a text: an escape character, an opening bracket, numbers and
marks, and a letter. What of one was read so far is held back, the last character first. -/
def plainChars (held : List Char) : List Char → List Char
  | [] => held.reverse
  | c :: rest =>
    let afresh (before : List Char) : List Char :=
      if c == '\x1b' then before.reverse ++ plainChars [c] rest
      else before.reverse ++ c :: plainChars [] rest
    match held with
    | [] => afresh []
    | [start] => if c == '[' then plainChars [c, start] rest else afresh held
    | _ =>
      if c == ';' || c == '?' || Json.isDigit c then plainChars (c :: held) rest
      else if c.isAlpha then plainChars [] rest
      else afresh held

def plain (s : String) : String := String.ofList (plainChars [] s.toList)

def output : Outcome → String
  | .done text => plain text
  | _ => ""

def errorOutput : Outcome → String
  | .refused message => plain ("Error: " ++ message ++ "\n")
  | _ => ""

end Outcome

def lines (texts : List String) : String := String.join (texts.map (· ++ "\n"))

def sqlLines (statements : List String) : List String := statements.map (· ++ ";")

def keyLines (before after : String) (keys : List String) : List String :=
  (before ++ toString keys.length ++ " changeset(s)" ++ after) :: keys.map ("  " ++ ·)

def updateLines (r : Report) : List String :=
  keyLines "Applied " "" r.applied ++
    if r.skipped.isEmpty then []
    else ["Skipped " ++ toString r.skipped.length ++ " changeset(s)"]

def rollbackLines (r : Report) : List String := keyLines "Rolled back " "" r.rolledBack

def statusLines (pending : List ChangeSet) : List String :=
  keyLines "" " pending" (pending.map ChangeSet.key)

def rightInFour (s : String) : String := String.ofList (List.replicate (4 - s.length) ' ') ++ s

def recordLine (r : Record) : String :=
  rightInFour (if r.order.isNull then "-" else r.order.display) ++ "  " ++
    (r.date.map Timestamp.text).getD "-" ++ "  " ++ r.key

def historyLines (records : List Record) : List String :=
  (toString records.length ++ " changeset(s) ran") :: records.map ("  " ++ recordLine ·)

def historyJson (records : List Record) : String :=
  Json.indented (.list (records.map Record.toValue))

end CommandLine

end SchemaMigration
