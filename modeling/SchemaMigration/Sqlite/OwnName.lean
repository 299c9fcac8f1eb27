import SchemaMigration.Text.Split

namespace SchemaMigration.Sqlite

def isOwnName (name : String) : Bool := "sqlite_".toList.isPrefixOf name.toLower.toList

def catalogs : List String :=
  ["sqlite_master", "sqlite_schema", "sqlite_temp_master", "sqlite_temp_schema"]

def inquiryMark : String := "pragma_"

def inquiries : List (String × List String) := [
  ("analysis_limit", ["analysis_limit"]), ("application_id", ["application_id"]),
  ("auto_vacuum", ["auto_vacuum"]), ("automatic_index", ["automatic_index"]),
  ("busy_timeout", ["timeout"]), ("cache_size", ["cache_size"]), ("cache_spill", ["cache_spill"]),
  ("cell_size_check", ["cell_size_check"]), ("checkpoint_fullfsync", ["checkpoint_fullfsync"]),
  ("collation_list", ["seq", "name"]), ("compile_options", ["compile_options"]),
  ("count_changes", ["count_changes"]), ("data_version", ["data_version"]),
  ("database_list", ["seq", "name", "file"]), ("default_cache_size", ["cache_size"]),
  ("defer_foreign_keys", ["defer_foreign_keys"]),
  ("empty_result_callbacks", ["empty_result_callbacks"]), ("encoding", ["encoding"]),
  ("foreign_key_check", ["table", "rowid", "parent", "fkid"]),
  ("foreign_key_list", ["id", "seq", "table", "from", "to", "on_update", "on_delete", "match"]),
  ("foreign_keys", ["foreign_keys"]), ("freelist_count", ["freelist_count"]),
  ("full_column_names", ["full_column_names"]), ("fullfsync", ["fullfsync"]),
  ("function_list", ["name", "builtin", "type", "enc", "narg", "flags"]),
  ("hard_heap_limit", ["hard_heap_limit"]),
  ("ignore_check_constraints", ["ignore_check_constraints"]),
  ("index_info", ["seqno", "cid", "name"]),
  ("index_list", ["seq", "name", "unique", "origin", "partial"]),
  ("index_xinfo", ["seqno", "cid", "name", "desc", "coll", "key"]),
  ("integrity_check", ["integrity_check"]), ("journal_mode", ["journal_mode"]),
  ("journal_size_limit", ["journal_size_limit"]), ("legacy_alter_table", ["legacy_alter_table"]),
  ("locking_mode", ["locking_mode"]), ("max_page_count", ["max_page_count"]),
  ("module_list", ["name"]), ("optimize", ["optimize"]), ("page_count", ["page_count"]),
  ("page_size", ["page_size"]), ("pragma_list", ["name"]), ("query_only", ["query_only"]),
  ("quick_check", ["quick_check"]), ("read_uncommitted", ["read_uncommitted"]),
  ("recursive_triggers", ["recursive_triggers"]),
  ("reverse_unordered_selects", ["reverse_unordered_selects"]),
  ("schema_version", ["schema_version"]), ("secure_delete", ["secure_delete"]),
  ("short_column_names", ["short_column_names"]), ("soft_heap_limit", ["soft_heap_limit"]),
  ("synchronous", ["synchronous"]),
  ("table_info", ["cid", "name", "type", "notnull", "dflt_value", "pk"]),
  ("table_list", ["schema", "name", "type", "ncol", "wr", "strict"]),
  ("table_xinfo", ["cid", "name", "type", "notnull", "dflt_value", "pk", "hidden"]),
  ("temp_store", ["temp_store"]), ("threads", ["threads"]), ("trusted_schema", ["trusted_schema"]),
  ("user_version", ["user_version"]), ("writable_schema", ["writable_schema"])]

def inquiryOf? (name : String) : Option String :=
  let n := name.toLower.toList
  let question := String.ofList (n.drop inquiryMark.length)
  if inquiryMark.toList.isPrefixOf n && (inquiries.lookup question).isSome then
    some question else none

def dissections : List (String × List String) :=
  let ofJson := ["key", "value", "type", "atom", "id", "parent", "fullkey", "path"]
  [("json_each", ofJson), ("json_tree", ofJson),
    ("fts3tokenize", ["input", "token", "start", "end", "position"])]

def functionColumns? (name : String) : Option (List String) :=
  match inquiryOf? name with
  | some question => inquiries.lookup question
  | none => dissections.lookup name.toLower

def isTableFunction (name : String) : Bool := (functionColumns? name).isSome

end SchemaMigration.Sqlite
