import SchemaMigration.Declaration.Basic

namespace SchemaMigration

open Declaration

namespace Database

def answer (db : Database) (question : String) (arguments : List Value) :
    Except DeclarationError Value :=
  match question, arguments with
  | "quote", [name] => fitting ((db.quoteName name).map .text)
  | "qualify", [schema, name] => fitting ((db.qualifyName schema name).map .text)
  | "escape", [v] => fitting (v.written.map fun s => .text (textLiteral s))
  | "boolean", [v] => .ok (.text (db.boolLiteral v.isTrue))
  | "literal", [v] => .ok (.text (db.literal v))
  | "type", [type] => (text type).map fun s => .text (db.columnType s false)
  | "type", [type, generated] => (text type).map fun s => .text (db.columnType s generated.isTrue)
  | "normalize", [v] => fitting (v.written.map fun s => .text (Dialect.normalizeName s))
  | "repr", [] => .ok (.text db.shown)
  | "supported", [] => .ok (.list (Dialect.all.map fun d => .text d.name))
  | "props", [] =>
    .ok (.list [.text db.name, db.defaultSchema, .bool db.style.hasComments,
      .bool db.engine.isSome])
  | _, _ => .error unfit

def answerTo (db : Database) (call : Value) : Except DeclarationError Value :=
  match call with
  | .list (.text question :: arguments) => db.answer question arguments
  | _ => .error unfit

end Database

end SchemaMigration
