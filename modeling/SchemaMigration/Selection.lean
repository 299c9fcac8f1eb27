import SchemaMigration.History.Store

namespace SchemaMigration

structure Snapshot where
  records : List Record
  ignoreCase : Bool

namespace Snapshot

def isNamesake (c : ChangeSet) (r : Record) : Bool := r.id.same c.id && r.author.same c.author

def samePath (ignoreCase : Bool) (c : ChangeSet) (r : Record) : Bool :=
  match Path.sameDeclared ignoreCase r.path c.path with
  | .ok b => b
  | .error _ => false

def matches? (ignoreCase : Bool) (c : ChangeSet) (r : Record) : Bool :=
  isNamesake c r && samePath ignoreCase c r

def find? (s : Snapshot) (c : ChangeSet) : Option Record :=
  s.records.find? (matches? s.ignoreCase c)

/-- Whether case is to be ignored in a path that is no text, on the way to the record of a
changeset. -/
def isObstructed (s : Snapshot) (c : ChangeSet) : Bool :=
  s.ignoreCase &&
    (s.records.takeWhile fun r => !matches? s.ignoreCase c r).any fun r =>
      isNamesake c r && (r.path.text?.isNone || c.path.text?.isNone)

def hasDrifted (c : ChangeSet) (r : Record) : Bool := r.checksum != .text c.checksum

/-- Whether a changeset has to run: if it never did, if it always does, or if it runs on change and
has changed. -/
def mustRun (s : Snapshot) (c : ChangeSet) : Bool :=
  match s.find? c with
  | none => true
  | some r => c.runAlways.isTrue || (c.runOnChange.isTrue && hasDrifted c r)

end Snapshot

structure Selection where
  snapshot : Snapshot
  reconciled : List (Identity × String) := []

namespace Selection

def ofStore {σ : Type} [HistoryStore σ] (store : σ) (ignoreCase : Bool) :
    Except StoreError Selection × σ :=
  let (records, store) := HistoryStore.load store
  (records.map fun rs => { snapshot := ⟨rs, ignoreCase⟩ }, store)

def written? (s : Selection) (i : Identity) : Option String :=
  (s.reconciled.find? fun w => w.1.same i).map (·.2)

def toReconcile? (s : Selection) (c : ChangeSet) : Option Identity :=
  match s.snapshot.find? c with
  | none => none
  | some r =>
    if !Snapshot.hasDrifted c r then none
    else if s.written? r.identity == some c.checksum then none
    else some r.identity

/-- Writes the checksum of a changeset back to its record, if that differs. Tells whether it was
written. What was written is looked up by the identity of the record. -/
def reconcile {σ : Type} [HistoryStore σ] (s : Selection) (store : σ) (c : ChangeSet) :
    Except StoreError (Bool × Selection) × σ :=
  if s.snapshot.isObstructed c then (.error (.misfit .lacking), store)
  else match s.toReconcile? c with
  | none => (.ok (false, s), store)
  | some i =>
    if !i.isKey then (.error (.misfit .unfit), store)
    else
      match HistoryStore.updateChecksum store i (.text c.checksum) with
      | (.error e, store) => (.error e, store)
      | (.ok (), store) =>
        (.ok (true, { s with reconciled := (i, c.checksum) :: s.reconciled }), store)

def shouldRun {σ : Type} [HistoryStore σ] (s : Selection) (store : σ) (c : ChangeSet) :
    Except StoreError (Bool × Selection) × σ :=
  let (result, store) := s.reconcile store c
  (result.map fun (_, s) => (s.snapshot.mustRun c, s), store)

end Selection

end SchemaMigration
