import SchemaMigration.Rendering

namespace SchemaMigration

abbrev Generator := Database → Statement → Except RenderError (List String)

structure Registry where
  entries : List ((Statement.Kind × String) × Generator)

namespace Registry

def anyDialect : String := "*"

def empty : Registry := ⟨[]⟩

def find? (r : Registry) (kind : Statement.Kind) (dialect : String) : Option Generator :=
  (r.entries.find? fun (key, _) => key.1 == kind && key.2 == dialect).map (·.2)

def contains (r : Registry) (kind : Statement.Kind) (dialect : String) : Bool :=
  (r.find? kind dialect).isSome

def size (r : Registry) : Nat := r.entries.length

def put (r : Registry) (kind : Statement.Kind) (dialect : String) (g : Generator) : Registry :=
  ⟨putPair (kind, dialect) g r.entries⟩

def add (r : Registry) (kind : Statement.Kind) (g : Generator) (dialects : List String) :
    Registry :=
  (if dialects.isEmpty then [anyDialect] else dialects).foldl (fun r d => r.put kind d g) r

def remove (r : Registry) (kind : Statement.Kind) (dialect : String) : Registry :=
  ⟨r.entries.filter fun (key, _) => !(key.1 == kind && key.2 == dialect)⟩

def get? (r : Registry) (db : Database) (s : Statement) : Option Generator :=
  match r.find? s.kind db.name with
  | some g => some g
  | none => r.find? s.kind anyDialect

def supports (r : Registry) (db : Database) (s : Statement) : Bool := (r.get? db s).isSome

def generate (r : Registry) (db : Database) (s : Statement) : Except RenderError (List String) :=
  match r.get? db s with
  | some g => g db s
  | none => .error (.unsupported s.kind db.name)

def generateAll (r : Registry) (db : Database) : List Statement → Except RenderError (List String)
  | [] => .ok []
  | s :: rest => do
    let sql ← r.generate db s
    let more ← r.generateAll db rest
    return sql ++ more

def render : Generator := fun db s =>
  match s with
  | .createTable t => Rendering.createTable t db
  | .dropTable schema table cascade => Rendering.dropTable schema table cascade db
  | .renameTable schema table newName => Rendering.renameTable schema table newName db
  | .addColumn a => Rendering.addColumn a db
  | .dropColumn schema table column => Rendering.dropColumn schema table column db
  | .renameColumn schema table column newName _ =>
    Rendering.renameColumn schema table column newName db
  | .createIndex i => Rendering.createIndex i db
  | .dropIndex schema table index => Rendering.dropIndex schema table index db
  | .tableRemarks schema table remarks => Rendering.commentOnTable schema table remarks db
  | .columnRemarks schema table column remarks =>
    Rendering.commentOnColumn schema table column remarks db
  | .sql text => Rendering.plain text

def renderAsAlteration : Generator := fun db s =>
  match s with
  | .tableRemarks schema table remarks => Rendering.alterTableComment schema table remarks db
  | s => render db s

def commonKinds : List Statement.Kind :=
  [.createTable, .dropTable, .renameTable, .addColumn, .dropColumn, .renameColumn, .createIndex,
    .dropIndex]

def bundled : Registry :=
  let common := commonKinds.foldl (fun r kind => r.add kind render []) empty
  ((common.add .tableRemarks render ["postgresql", "oracle"]).add .columnRemarks render
    ["postgresql", "oracle"]).add .tableRemarks renderAsAlteration ["mysql", "mariadb"]

end Registry

end SchemaMigration
