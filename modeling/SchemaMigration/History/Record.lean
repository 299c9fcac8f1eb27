import SchemaMigration.ChangeLog
import SchemaMigration.Timestamp.Basic

namespace SchemaMigration

/-- The record of the last successful run of a changeset. What a run writes are texts and a whole
number for the order; a record from elsewhere can hold other values, and null where nothing is
known. -/
structure Record where
  id : Value
  author : Value
  path : Value
  checksum : Value
  date : Option Timestamp := none
  order : Value := .null
  description : Value := .null
  deriving DecidableEq, Repr

namespace Record

def identity (r : Record) : Identity := ⟨r.id, r.author, r.path⟩

def key (r : Record) : String := r.identity.key

def toValue (r : Record) : Value :=
  .object [("id", r.id), ("author", r.author), ("file_path", r.path), ("checksum", r.checksum),
    ("date_executed", .ofText? (r.date.map Timestamp.text)), ("order_executed", r.order),
    ("description", r.description)]

def ofRun (c : ChangeSet) (path : Value) (now : Timestamp) (order : Value) : Record where
  id := c.id
  author := c.author
  path := path
  checksum := .text c.checksum
  date := some now
  order := order
  description := .text c.description

/-- One more than the greatest order of the records, which is zero if none has an order. There is
none if an order is no number. -/
def nextOrder? (records : List Record) : Option Value :=
  Value.following? ((records.map Record.order).filter fun v => !v.isNull)

end Record

end SchemaMigration
