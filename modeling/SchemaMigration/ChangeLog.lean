import SchemaMigration.Change.Compile
import SchemaMigration.Declaration.Change
import SchemaMigration.Digest.Md5
import SchemaMigration.Json.Printer
import SchemaMigration.Path
import SchemaMigration.Precondition.Basic
import SchemaMigration.Value.Comparison

namespace SchemaMigration

/-- What identifies a changeset or the record of one. Each part is a text or any other plain value:
the number 5 and the text `5` are two ids. -/
structure Identity where
  id : Value
  author : Value
  path : Value
  deriving DecidableEq, Repr

namespace Identity

def key (i : Identity) : String :=
  i.path.display ++ "::" ++ i.id.display ++ "::" ++ i.author.display

def same (i j : Identity) : Bool := i.id.same j.id && i.author.same j.author && i.path.same j.path

def isKey (i : Identity) : Bool := i.id.isKey && i.author.isKey && i.path.isKey

theorem same_texts (a b c d e f : String) :
    same ⟨.text a, .text b, .text c⟩ ⟨.text d, .text e, .text f⟩ =
      ((⟨.text a, .text b, .text c⟩ : Identity) == ⟨.text d, .text e, .text f⟩) := by
  rw [Bool.eq_iff_iff]
  simp [same, and_assoc]

end Identity

def Change.content (c : Change) : WideValue := c.toValue.widen

/-- The text that a checksum is computed from: the content of changes in canonical form. -/
def payloadOf (contents : List WideValue) : String := Json.canonical (.list contents)

def checksumPayload (changes : List Change) : String := payloadOf (changes.map Change.content)

def checksumOf (changes : List Change) : String := Md5.digest (checksumPayload changes)

structure ChangeSet where
  id : Value
  author : Value
  path : Value
  changes : List Change := []
  runAlways : Value := .bool false
  runOnChange : Value := .bool false
  comments : Value := .null
  guard : Option Guard := none
  rollback : List Change := []

namespace ChangeSet

def normalized (c : ChangeSet) : Except Misfit ChangeSet := do
  let path ← Path.ofDeclared c.path
  return { c with path := path }

def identity (c : ChangeSet) : Identity := ⟨c.id, c.author, c.path⟩

def key (c : ChangeSet) : String := c.identity.key

def checksum (c : ChangeSet) : String := checksumOf c.changes

def description (c : ChangeSet) : String := Text.join ", " (c.changes.map Change.name)

def confirmations (c : ChangeSet) : Except ChangeError (List String) :=
  Change.confirmations c.changes

end ChangeSet

structure ChangeLog where
  path : Value
  changeSets : List ChangeSet := []
  guard : Option Guard := none

namespace ChangeLog

def normalized (log : ChangeLog) : Except Misfit ChangeLog := do
  let path ← Path.ofDeclared log.path
  return { log with path := path }

def add (log : ChangeLog) (c : ChangeSet) : ChangeLog :=
  { log with changeSets := log.changeSets ++ [c] }

/-- A changeset declared in a changelog, and the changelog with it. It is made at the path of the
changelog, whatever path it comes with. -/
def declare (log : ChangeLog) (c : ChangeSet) : Except Misfit (ChangeSet × ChangeLog) := do
  let c ← ({ c with path := log.path } : ChangeSet).normalized
  return (c, log.add c)

def size (log : ChangeLog) : Nat := log.changeSets.length

end ChangeLog

end SchemaMigration
