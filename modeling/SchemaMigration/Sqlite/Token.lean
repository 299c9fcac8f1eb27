import SchemaMigration.Json.Reader

namespace SchemaMigration.Sqlite

inductive Token
  | word (s : String)
  | name (s : String) (quote : Char)
  | text (s : String)
  | bytes (content : List Nat)
  /-- A number, in base sixteen or with a point and an exponent; only whole ones have neither. -/
  | hex (n : Nat)
  | whole (n : Nat)
  | pointed (significand : Nat) (exponent : Int)
  | parameter
  | mark (s : String)
  | illegal
  deriving DecidableEq, Repr

structure Lexeme where
  gap : List Char
  raw : List Char
  token : Token
  deriving Repr

namespace Token

def isSpace (c : Char) : Bool := c == ' ' || c == '\t' || c == '\n' || c == '\x0c' || c == '\r'

def isWordChar (c : Char) : Bool := c.isAlphanum || c == '_' || c == '$' || 0x80 ≤ c.toNat

def startsWord (c : Char) : Bool := c.isAlpha || c == '_' || 0x80 ≤ c.toNat

def commentLength : List Char → Nat
  | '*' :: '/' :: _ => 2
  | _ :: rest => commentLength rest + 1
  | [] => 0

/-- The characters of the blank that starts a text, or none. A mark of byte order is a blank,
too. -/
def blankLength (s : List Char) : Nat :=
  match s with
  | '-' :: '-' :: rest => 2 + (rest.takeWhile (· != '\n')).length
  | '/' :: '*' :: c :: rest => 2 + commentLength' c rest
  | c :: _ => if isSpace c || c == '\uFEFF' then 1 else 0
  | [] => 0
where
  commentLength' (c : Char) (rest : List Char) : Nat :=
    if c == '*' && rest.head? == some '/' then 2 else 1 + commentLength rest

def gapLength : Nat → List Char → Nat
  | 0, _ => 0
  | fuel + 1, s =>
    let n := blankLength s
    if n == 0 then 0 else n + gapLength fuel (s.drop n)

/-- The content up to a quote, which is written twice inside, and what follows; nothing if the quote
is missing. -/
def untilQuote? (quote : Char) : List Char → Option (List Char × List Char)
  | [] => none
  | [c] => if c == quote then some ([], []) else none
  | c :: d :: rest =>
    if c != quote then (untilQuote? quote (d :: rest)).map fun (s, rest) => (c :: s, rest)
    else if d == quote then (untilQuote? quote rest).map fun (s, rest) => (c :: s, rest)
    else some ([], d :: rest)

def bytes? : List Char → Option (List Nat)
  | [] => some []
  | a :: b :: rest => do
    let high ← Json.hexValue? a
    let low ← Json.hexValue? b
    let more ← bytes? rest
    some ((high * 16 + low) :: more)
  | [_] => none

def digits (isMember : Char → Bool) : List Char → List Char × List Char
  | [] => ([], [])
  | c :: rest =>
    if isMember c then
      let (ds, after) := digits isMember rest
      (c :: ds, after)
    else
      match c, rest with
      | '_', d :: _ =>
        let (ds, after) := digits isMember rest
        if isMember d then (ds, after) else ([], c :: rest)
      | _, _ => ([], c :: rest)

def isHexDigit (c : Char) : Bool := (Json.hexValue? c).isSome

def exponent (s : List Char) : Option Int × List Char :=
  match s with
  | e :: rest =>
    let negative := rest.head? == some '-'
    let body := if negative || rest.head? == some '+' then rest.drop 1 else rest
    let (ds, after) := digits Json.isDigit body
    if (e == 'e' || e == 'E') && !ds.isEmpty then
      let n : Int := Json.digitsValue ds
      (some (if negative then -n else n), after)
    else (none, s)
  | [] => (none, [])

def decimal (s : List Char) : Token × List Char :=
  let (ones, rest) := digits Json.isDigit s
  let (places, hasPoint, rest) :=
    match rest with
    | '.' :: more =>
      let (ds, rest) := digits Json.isDigit more
      (ds, true, rest)
    | _ => ([], false, rest)
  let (e, rest) := exponent rest
  let n := Json.digitsValue (ones ++ places)
  (if hasPoint || e.isSome then Token.pointed n (e.getD 0 - places.length) else Token.whole n, rest)

def number (s : List Char) : Token × List Char :=
  let (t, rest) :=
    match s with
    | '0' :: x :: d :: rest =>
      if (x == 'x' || x == 'X') && isHexDigit d then
        let (ds, rest) := digits isHexDigit (d :: rest)
        (Token.hex (ds.foldl (fun n c => n * 16 + (Json.hexValue? c).getD 0) 0), rest)
      else decimal s
    | _ => decimal s
  if (rest.head?.map isWordChar).getD false then
    (.illegal, rest.dropWhile isWordChar) else (t, rest)

def longMarks : List String := ["->>", "->", "==", "<=", "<>", "<<", ">=", ">>", "!=", "||"]

def shortMarks : List Char :=
  ['-', '(', ')', ';', '+', '*', '/', '%', '=', '<', '>', '|', ',', '&', '~', '.']

def next (c : Char) (rest : List Char) : Token × List Char :=
  let s := c :: rest
  if c == '\'' then
    match untilQuote? c rest with
    | some (t, rest) => (.text (String.ofList t), rest)
    | none => (.illegal, [])
  else if c == '"' || c == '\u0060' then
    match untilQuote? c rest with
    | some (t, rest) => (.name (String.ofList t) c, rest)
    | none => (.illegal, [])
  else if c == '[' then
    if rest.contains ']' then
      (.name (String.ofList (rest.takeWhile (· != ']'))) c, (rest.dropWhile (· != ']')).drop 1)
    else (.illegal, [])
  else if Json.isDigit c || (c == '.' && (rest.head?.map Json.isDigit).getD false) then number s
  else if (c == 'x' || c == 'X') && rest.head? == some '\'' then
    match untilQuote? '\'' (rest.drop 1) with
    | some (digits, rest) => ((bytes? digits).elim .illegal .bytes, rest)
    | none => (.illegal, [])
  else if startsWord c then
    (.word (String.ofList (s.takeWhile isWordChar)), s.dropWhile isWordChar)
  else if c == '?' then (.parameter, rest.dropWhile Json.isDigit)
  else if c == ':' || c == '@' || c == '#' || c == '$' then
    let word := rest.takeWhile isWordChar
    (if word.isEmpty then .illegal else .parameter, rest.drop word.length)
  else
    match longMarks.find? fun m => m.toList.isPrefixOf s with
    | some m => (.mark m, s.drop m.length)
    | none => (if shortMarks.contains c then .mark (String.ofList [c]) else .illegal, rest)

def readAll : Nat → List Char → List Lexeme
  | 0, _ => []
  | fuel + 1, s =>
    let n := gapLength (s.length + 1) s
    match s.drop n with
    | [] => []
    | c :: rest =>
      let (t, after) := next c rest
      ⟨s.take n, (c :: rest).take (rest.length + 1 - after.length), t⟩ :: readAll fuel after

def keyword? : Token → Option String
  | .word s => some s.toUpper
  | _ => none

def isWord (t : Token) (word : String) : Bool := t.keyword? == some word

def reserved : List String := [
  "ADD", "ALL", "ALTER", "AND", "AS", "AUTOINCREMENT", "BETWEEN", "CASE", "CHECK", "COLLATE",
  "COMMIT", "CONSTRAINT", "CREATE", "DEFAULT", "DEFERRABLE", "DELETE", "DISTINCT", "DROP", "ELSE",
  "ESCAPE", "EXCEPT", "EXISTS", "FOREIGN", "FROM", "GROUP", "HAVING", "IN", "INDEX", "INSERT",
  "INTERSECT", "INTO", "IS", "ISNULL", "JOIN", "LIMIT", "NOT", "NOTHING", "NOTNULL", "NULL", "ON",
  "OR", "ORDER", "PRIMARY", "REFERENCES", "RETURNING", "SELECT", "SET", "TABLE", "THEN", "TO",
  "TRANSACTION", "UNION", "UNIQUE", "UPDATE", "USING", "VALUES", "WHEN", "WHERE"]

def joinWords : List String :=
  ["CROSS", "FULL", "INDEXED", "INNER", "LEFT", "NATURAL", "OUTER", "RIGHT"]

def identifier? : Token → Option String
  | .word s => if reserved.contains s.toUpper then none else some s
  | .name s _ => some s
  | _ => none

def nameOrText? : Token → Option String
  | .text s => some s
  | t => t.identifier?

def plainName? (t : Token) : Option String :=
  match t.keyword? with
  | some k => if joinWords.contains k then none else t.nameOrText?
  | none => t.nameOrText?

end Token

def lexemes (sql : String) : List Lexeme := Token.readAll (sql.length + 1) sql.toList

def written (ls : List Lexeme) : String :=
  match ls with
  | [] => ""
  | first :: rest => String.ofList (first.raw ++ rest.flatMap fun l => l.gap ++ l.raw)

def sameName (a b : String) : Bool := a.toLower == b.toLower

end SchemaMigration.Sqlite
