import SchemaMigration.Sqlite.Cell
import SchemaMigration.Sqlite.OwnName

namespace SchemaMigration.Sqlite

def settings : List (String × Cell) := [
  ("analysis_limit", .int 0), ("application_id", .int 0), ("auto_vacuum", .int 0),
  ("automatic_index", .int 1), ("busy_timeout", .int 5000), ("cache_size", .int (-2000)),
  ("cache_spill", .int 483), ("cell_size_check", .int 0), ("checkpoint_fullfsync", .int 0),
  ("count_changes", .int 0), ("data_version", .int 1), ("default_cache_size", .int (-2000)),
  ("defer_foreign_keys", .int 0), ("empty_result_callbacks", .int 0), ("encoding", .text "UTF-8"),
  ("foreign_keys", .int 0), ("freelist_count", .int 0), ("full_column_names", .int 0),
  ("fullfsync", .int 0), ("hard_heap_limit", .int 0), ("ignore_check_constraints", .int 0),
  ("integrity_check", .text "ok"), ("journal_mode", .text "delete"),
  ("journal_size_limit", .int (-1)), ("legacy_alter_table", .int 0),
  ("locking_mode", .text "normal"), ("max_page_count", .int 4294967294),
  ("mmap_size", .int 0), ("page_size", .int 4096),
  ("query_only", .int 0), ("quick_check", .text "ok"), ("read_uncommitted", .int 0),
  ("recursive_triggers", .int 0), ("reverse_unordered_selects", .int 0), ("secure_delete", .int 0),
  ("short_column_names", .int 1), ("soft_heap_limit", .int 0), ("synchronous", .int 2),
  ("temp_store", .int 0), ("threads", .int 0), ("trusted_schema", .int 1), ("user_version", .int 0),
  ("wal_autocheckpoint", .int 1000), ("writable_schema", .int 0)]

/-- Settings that are words, with the words that they can be; they answer with what they are from
now on. -/
def settingWords : List (String × List String) := [
  ("journal_mode", ["delete", "truncate", "persist", "memory", "wal", "off"]),
  ("locking_mode", ["normal", "exclusive"])]

def settingsThatTell : List String :=
  ["analysis_limit", "busy_timeout", "journal_size_limit", "max_page_count", "mmap_size",
    "secure_delete", "soft_heap_limit", "threads", "wal_autocheckpoint"]

def examinations : List String := ["integrity_check", "quick_check"]

def settingCell? (name : String) : Option String → Option Cell
  | none => settings.lookup name
  | some given =>
    match settingWords.lookup name with
    | some words =>
      some (.text (if words.contains given.toLower then given.toLower else words.headD ""))
    | none =>
      if examinations.contains name then settings.lookup name
      else if settingsThatTell.contains name then some (Affinity.integer.apply (.text given))
      else none

def answerColumns (name : String) : List String := (inquiries.lookup name).getD [name]

end SchemaMigration.Sqlite
