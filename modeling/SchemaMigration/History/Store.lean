import SchemaMigration.Engine
import SchemaMigration.History.Record

namespace SchemaMigration

inductive StoreError
  | refused (operation detail : String)
  | overflow
  /-- A value is of a kind that the operation can do nothing with: a list that is looked up by,
  orders that cannot be compared, or a path without letters whose case could be ignored. -/
  | misfit (f : Misfit)
  deriving DecidableEq, Repr

def StoreError.message : StoreError → String
  | .refused operation detail => "History store " ++ operation ++ " failed: " ++ detail
  | .overflow => "a number is too great to be stored"
  | .misfit f => f.message

namespace StoreOperation

def prepare : String := "initialize"

def read : String := "read"

def write : String := "write"

def delete : String := "delete"

def updateChecksum : String := "checksum update"

end StoreOperation

/-- What runs need of a store. Every operation gives the store afterwards, also when it fails. A
store may be a part of the database that a run works on; then each sees what the other does. -/
class HistoryStore (σ : Type) where
  load : σ → Except StoreError (List Record) × σ
  updateChecksum : σ → Identity → Value → Except StoreError Unit × σ
  markRan : σ → Timestamp → ChangeSet → Value → Except StoreError Unit × σ
  remove : σ → ChangeSet → Value → Except StoreError Unit × σ
  follow : σ → Transaction → σ := fun store _ => store
  /-- The engine of a run with the transactions that its answers depend on, given those that it was
  sent. The engine of a database that the store is a part of has its own transactions behind it. -/
  view : σ → Engine → List Transaction → Engine × List Transaction :=
    fun _ engine log => (engine, log)

def ChangeSet.recordedAs (c : ChangeSet) (path : Value) : Identity :=
  if path.isTrue then ⟨c.id, c.author, path⟩ else c.identity

structure MemoryStore where
  records : List Record := []
  checksumUpdates : List (Identity × Value) := []
  deriving DecidableEq, Repr

namespace MemoryStore

def updateChecksum (m : MemoryStore) (i : Identity) (checksum : Value) : MemoryStore where
  records := m.records.map fun r =>
    if r.identity.same i then { r with checksum := checksum } else r
  checksumUpdates := m.checksumUpdates ++ [(i, checksum)]

def putRecord (record : Record) : List Record → List Record
  | [] => [record]
  | r :: rest =>
    if r.identity.same record.identity then record :: rest else r :: putRecord record rest

def markRan (m : MemoryStore) (now : Timestamp) (c : ChangeSet) (path : Value) :
    Except StoreError MemoryStore :=
  match Record.nextOrder? m.records with
  | some order =>
    let record := Record.ofRun c (c.recordedAs path).path now order
    .ok { m with records := putRecord record m.records }
  | none => .error (.misfit .unfit)

def remove (m : MemoryStore) (c : ChangeSet) (path : Value) : MemoryStore :=
  { m with records := m.records.filter fun r => !r.identity.same (c.recordedAs path) }

end MemoryStore

instance : HistoryStore MemoryStore where
  load m := (.ok m.records, m)
  updateChecksum m i checksum := (.ok (), m.updateChecksum i checksum)
  markRan m now c path :=
    match m.markRan now c path with
    | .ok m => (.ok (), m)
    | .error e => (.error e, m)
  remove m c path := (.ok (), m.remove c path)

namespace MemoryStore

@[simp] theorem follow_eq (m : MemoryStore) (t : Transaction) : HistoryStore.follow m t = m := rfl

@[simp] theorem view_eq (m : MemoryStore) (engine : Engine) (log : List Transaction) :
    HistoryStore.view m engine log = (engine, log) := rfl

end MemoryStore

structure FaultyStore (σ : Type) where
  store : σ
  fault? : String → Option String

namespace FaultyStore

variable {σ : Type}

def attempt {α : Type} (f : FaultyStore σ) (operation : String)
    (action : σ → Except StoreError α × σ) : Except StoreError α × FaultyStore σ :=
  match f.fault? operation with
  | some detail => (.error (.refused operation detail), f)
  | none =>
    let (result, store) := action f.store
    (result, { f with store := store })

instance [HistoryStore σ] : HistoryStore (FaultyStore σ) where
  load f := f.attempt StoreOperation.read HistoryStore.load
  updateChecksum f i checksum :=
    f.attempt StoreOperation.updateChecksum fun s => HistoryStore.updateChecksum s i checksum
  markRan f now c path := f.attempt StoreOperation.write fun s => HistoryStore.markRan s now c path
  remove f c path := f.attempt StoreOperation.delete fun s => HistoryStore.remove s c path
  follow f t := { f with store := HistoryStore.follow f.store t }
  view f engine log := HistoryStore.view f.store engine log

end FaultyStore

end SchemaMigration
