
namespace SchemaMigration.Yaml

structure WrittenTag where
  handle : Option String
  suffix : String
  deriving DecidableEq, Repr

inductive Directive
  | version (major : Nat)
  | tag (handle start : String)
  | other
  deriving DecidableEq, Repr

inductive Token
  | directive (d : Directive)
  | documentStart
  | documentEnd
  | sequenceStart
  | mappingStart
  | blockEnd
  | flowSequenceStart
  | flowSequenceEnd
  | flowMappingStart
  | flowMappingEnd
  | item
  | comma
  | key
  | value
  | alias (name : String)
  | anchor (name : String)
  | tag (t : WrittenTag)
  | scalar (text : String) (isPlain : Bool)
  deriving DecidableEq, Repr

end SchemaMigration.Yaml
