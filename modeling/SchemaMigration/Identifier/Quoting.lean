import SchemaMigration.Dialect
import SchemaMigration.Identifier.Reserved
import SchemaMigration.Text.Split

namespace SchemaMigration.Identifier

structure Style where
  opening : Char
  closing : Char
  doublesPercent : Bool
  startsWithUnderscore : Bool
  splitsSchema : Bool
  reserved : List String
  hasComments : Bool

def Style.of : Option Dialect → Style
  | some .postgresql => ⟨'"', '"', true, true, false, postgresqlWords, true⟩
  | some .mysql => ⟨'\u0060', '\u0060', true, true, false, mysqlWords, true⟩
  | some .mariadb => ⟨'\u0060', '\u0060', true, true, false, mysqlWords, true⟩
  | some .sqlite => ⟨'"', '"', false, true, false, sqliteWords, false⟩
  | some .oracle => ⟨'"', '"', false, false, false, oracleWords, true⟩
  | some .mssql => ⟨'[', ']', false, true, true, mssqlWords, true⟩
  | none => ⟨'"', '"', false, true, false, standardWords, false⟩

/-- A character of a plain word, in either case. The four letters beyond ASCII are those that
differ from a letter of ASCII in case alone. -/
def isWordChar (c : Char) : Bool :=
  ('a' ≤ c && c ≤ 'z') || ('A' ≤ c && c ≤ 'Z') || ('0' ≤ c && c ≤ '9') || c == '_' || c == '$' ||
    c == '\u0131' || c == '\u017F' || c == '\u212A' || c == '\u0130'

def isWord : List Char → Bool
  | [] => false
  | [c] => isWordChar c
  | [c, '\n'] => isWordChar c
  | c :: rest => isWordChar c && isWord rest

def Style.isIllegalStart (style : Style) (c : Char) : Bool :=
  ('0' ≤ c && c ≤ '9') || c == '$' || (c == '_' && !style.startsWithUnderscore)

def Style.isReserved (style : Style) (name : List Char) : Bool :=
  style.reserved.contains (String.ofList name)

def Style.needsQuotes (style : Style) (name : List Char) : Bool :=
  match name with
  | [] => true
  | c :: _ =>
    style.isReserved (Text.lowerFrom [] name) || style.isIllegalStart c || !isWord name ||
      Text.lowerFrom [] name != name

def Style.escapeChar (style : Style) (c : Char) : List Char :=
  if c == style.closing then [c, c]
  else if c == '%' && style.doublesPercent then ['%', '%']
  else [c]

def Style.inQuotes (style : Style) (name : List Char) : List Char :=
  style.opening :: name.flatMap style.escapeChar ++ [style.closing]

def Style.quoteChars (style : Style) (name : List Char) : List Char :=
  if style.needsQuotes name then style.inQuotes name else name

def Style.quote (style : Style) (name : String) : String :=
  String.ofList (style.quoteChars name.toList)

structure SchemaScan where
  parts : List (List Char) := []
  part : List Char := []
  inBrackets : Bool := false
  hadBrackets : Bool := false

def SchemaScan.next (scan : SchemaScan) (c : Char) : SchemaScan :=
  if c == '[' then { scan with inBrackets := true, hadBrackets := true }
  else if c == ']' then { scan with inBrackets := false }
  else if c == '.' && !scan.inBrackets then
    let part := if scan.hadBrackets then '[' :: scan.part ++ [']'] else scan.part
    { scan with parts := scan.parts ++ [part], part := [], hadBrackets := false }
  else { scan with part := scan.part ++ [c] }

def schemaParts (schema : List Char) : List (List Char) :=
  let scan := schema.foldl SchemaScan.next {}
  if scan.part == [] then scan.parts else scan.parts ++ [scan.part]

def hasInnerBrackets (s : List Char) : Bool :=
  ((s.takeWhile (· != '\n')).dropWhile (· != ']')).contains '['

def Style.quoteOwnerDatabase (style : Style) (database : List Char) : List Char :=
  if hasInnerBrackets ((database.drop 1).dropLast) then database
  else
    let bare := ((database.dropWhile (· == '[')).reverse.dropWhile (· == ']')).reverse
    if bare == [] then [] else style.quoteChars bare

def placeholderStart : List Char := "__[SCHEMA_".toList

def Style.quoteSchemaChars (style : Style) (schema : List Char) : List Char :=
  if !style.splitsSchema || placeholderStart.isPrefixOf schema then style.quoteChars schema
  else
    let parts := schemaParts schema
    match parts.getLast?, parts.dropLast with
    | none, _ => []
    | some owner, [] => if owner == [] then [] else style.quoteChars owner
    | some owner, databaseParts =>
      let database := style.quoteOwnerDatabase (Text.joinOn '.' databaseParts)
      if database == [] then (if owner == [] then [] else style.quoteChars owner)
      else database ++ '.' :: style.quoteChars owner

def Style.quoteSchema (style : Style) (schema : String) : String :=
  String.ofList (style.quoteSchemaChars schema.toList)

end SchemaMigration.Identifier
