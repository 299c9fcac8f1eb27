import SchemaMigration.Yaml.BlockText
import SchemaMigration.Yaml.Property
import SchemaMigration.Yaml.Text

namespace SchemaMigration.Yaml

/-- A place where a key may have started: how many tokens are before it, and where it is. A key that
is required is the only thing that can stand there. -/
structure KeyPlace where
  tokens : Nat
  isRequired : Bool
  start : Cursor
  deriving Repr

structure Lexing where
  cursor : Cursor
  tokens : List Token := []
  count : Nat := 0
  flowLevel : Nat := 0
  indent : Int := -1
  indents : List Int := []
  allowsKey : Bool := true
  keys : List (Nat × KeyPlace) := []
  deriving Repr

namespace Lexing

def push (s : Lexing) (t : Token) : Lexing :=
  { s with tokens := t :: s.tokens, count := s.count + 1 }

def insert (s : Lexing) (before : Nat) (t : Token) : Lexing :=
  let later := s.count - before
  { s with tokens := s.tokens.take later ++ t :: s.tokens.drop later, count := s.count + 1 }

def greatestKeyLength : Nat := 1024

def isStale (s : Lexing) (k : KeyPlace) : Bool :=
  k.start.line != s.cursor.line || greatestKeyLength < s.cursor.index - k.start.index

def dropStale (s : Lexing) : Except Fault Lexing :=
  if s.keys.any fun (_, k) => s.isStale k && k.isRequired then .error .malformed
  else .ok { s with keys := s.keys.filter fun (_, k) => !s.isStale k }

def dropKey (s : Lexing) : Except Fault Lexing :=
  if ((s.keys.lookup s.flowLevel).map KeyPlace.isRequired).getD false then .error .malformed
  else .ok { s with keys := s.keys.filter fun (level, _) => level != s.flowLevel }

def noteKey (s : Lexing) : Except Fault Lexing :=
  if s.allowsKey then do
    let k : KeyPlace := ⟨s.count, s.flowLevel == 0 && s.indent == s.cursor.column, s.cursor⟩
    let s ← s.dropKey
    .ok { s with keys := (s.flowLevel, k) :: s.keys }
  else .ok s

def closeBlocks (column : Int) (s : Lexing) : Lexing :=
  if s.flowLevel != 0 then s
  else
    let closed := ((s.indent :: s.indents).takeWhile (column < ·)).length
    let closed := min closed s.indents.length
    let stack := (s.indent :: s.indents).drop closed
    { s with
      indent := stack.headD (-1)
      indents := stack.drop 1
      tokens := List.replicate closed .blockEnd ++ s.tokens
      count := s.count + closed }

/-- A block starts if a column is further in than the innermost one; its token is put in where some
number of tokens are before it. -/
def openBlock (s : Lexing) (column : Nat) (before : Nat) (t : Token) : Lexing :=
  if s.flowLevel == 0 && s.indent < column then
    { s with indent := column, indents := s.indent :: s.indents }.insert before t
  else s

def take (s : Lexing) (length : Nat) (t : Token) : Lexing :=
  { s with cursor := s.cursor.advance length }.push t

def skip : Nat → Lexing → Lexing
  | 0, s => s
  | fuel + 1, s =>
    match s.cursor.lineEnd? with
    | some after =>
      if after.line == s.cursor.line then { s with cursor := after }
      else skip fuel { s with cursor := after, allowsKey := s.allowsKey || s.flowLevel == 0 }
    | none => { s with cursor := s.cursor.skipSpaces }

def atMargin (s : Lexing) : Except Fault Lexing := do
  let s ← (s.closeBlocks (-1)).dropKey
  .ok { s with allowsKey := false }

def marker (s : Lexing) (t : Token) : Except Fault Lexing := do
  let s ← s.atMargin
  .ok (s.take 3 t)

def flowStart (s : Lexing) (t : Token) : Except Fault Lexing := do
  let s ← s.noteKey
  .ok ({ s with flowLevel := s.flowLevel + 1, allowsKey := true }.take 1 t)

def flowEnd (s : Lexing) (t : Token) : Except Fault Lexing := do
  let s ← s.dropKey
  if s.flowLevel == 0 then .error .malformed
  else .ok ({ s with flowLevel := s.flowLevel - 1, allowsKey := false }.take 1 t)

def comma (s : Lexing) : Except Fault Lexing := do
  let s ← s.dropKey
  .ok ({ s with allowsKey := true }.take 1 .comma)

def blockMark (s : Lexing) (start t : Token) : Except Fault Lexing :=
  if s.flowLevel == 0 && !s.allowsKey then .error .malformed
  else do
    let s ← (s.openBlock s.cursor.column s.count start).dropKey
    .ok (s.take 1 t)

def item (s : Lexing) : Except Fault Lexing := do
  let s ← s.blockMark .sequenceStart .item
  .ok { s with allowsKey := true }

def markedKey (s : Lexing) : Except Fault Lexing := do
  let s ← s.blockMark .mappingStart .key
  .ok { s with allowsKey := s.flowLevel == 0 }

def value (s : Lexing) : Except Fault Lexing :=
  match s.keys.lookup s.flowLevel with
  | some k =>
    let s :=
      { s with keys := s.keys.filter fun (level, _) => level != s.flowLevel, allowsKey := false }
    .ok (((s.insert k.tokens .key).openBlock k.start.column k.tokens .mappingStart).take 1 .value)
  | none => do
    let s ← s.blockMark .mappingStart .value
    .ok { s with allowsKey := s.flowLevel == 0 }

def keyPart (s : Lexing) (read : Cursor → Except Fault (Token × Cursor)) : Except Fault Lexing := do
  let s ← s.noteKey
  let (t, after) ← read s.cursor
  .ok ({ s with cursor := after, allowsKey := false }.push t)

def blockScalar (s : Lexing) (isFolded : Bool) : Except Fault Lexing := do
  let s ← s.dropKey
  let (text, after) ← blockText isFolded (s.indent + 1).toNat s.cursor.next
  .ok ({ s with cursor := after, allowsKey := true }.push (.scalar (String.ofList text) false))

def quotedScalar (mark : Char) (cur : Cursor) : Except Fault (Token × Cursor) := do
  let (text, after) ← quotedText mark cur
  .ok (.scalar (String.ofList text) false, after)

def plainScalar (s : Lexing) : Except Fault Lexing := do
  let s ← s.noteKey
  let (text, onNewLine, after) :=
    plainText (s.flowLevel != 0) (s.indent + 1).toNat (s.cursor.rest.length + 1) [] false s.cursor
  .ok ({ s with cursor := after, allowsKey := onNewLine }.push (.scalar (String.ofList text) true))

def step (s : Lexing) : Except Fault (Option Lexing) := do
  let s ← (s.skip (s.cursor.rest.length + 1)).dropStale
  let s := s.closeBlocks s.cursor.column
  match s.cursor.rest with
  | [] => return none
  | c :: rest =>
    let inFlow := s.flowLevel != 0
    let isAlone := inFlow || endsToken rest
    if c == '%' && s.cursor.column == 0 then do
      let s ← s.atMargin
      let (d, after) ← directive s.cursor
      return some ({ s with cursor := after }.push (.directive d))
    else if s.cursor.column == 0 && s.cursor.atMarker then
      some <$> s.marker (if c == '-' then .documentStart else .documentEnd)
    else if c == '[' then some <$> s.flowStart .flowSequenceStart
    else if c == '{' then some <$> s.flowStart .flowMappingStart
    else if c == ']' then some <$> s.flowEnd .flowSequenceEnd
    else if c == '}' then some <$> s.flowEnd .flowMappingEnd
    else if c == ',' then some <$> s.comma
    else if c == '-' && endsToken rest then some <$> s.item
    else if c == '?' && isAlone then some <$> s.markedKey
    else if c == ':' && isAlone then some <$> s.value
    else if c == '*' then
      some <$> s.keyPart fun cur => (anchorName cur).map fun (n, cur) => (.alias n, cur)
    else if c == '&' then
      some <$> s.keyPart fun cur => (anchorName cur).map fun (n, cur) => (.anchor n, cur)
    else if c == '!' then
      some <$> s.keyPart fun cur => (writtenTag cur).map fun (t, cur) => (.tag t, cur)
    else if (c == '|' || c == '>') && !inFlow then some <$> s.blockScalar (c == '>')
    else if c == '\'' || c == '"' then some <$> s.keyPart (quotedScalar c)
    else if startsPlain inFlow s.cursor.rest then some <$> s.plainScalar
    else .error .malformed

def start (text : List Char) : Lexing :=
  let cur : Cursor := { rest := text }
  { cursor := if cur.peek? == some orderMark then cur.next else cur }

end Lexing

structure TokenList where
  tokens : List Token
  fault : Option Fault := none

namespace TokenList

def ofLexing : Nat → Lexing → TokenList
  | 0, s => ⟨s.tokens.reverse, some .malformed⟩
  | fuel + 1, s =>
    match s.step with
    | .error e => ⟨s.tokens.reverse, some e⟩
    | .ok (some s) => ofLexing fuel s
    | .ok none =>
      match s.atMargin with
      | .error e => ⟨s.tokens.reverse, some e⟩
      | .ok s => ⟨s.tokens.reverse, none⟩

def ofText (text : List Char) : TokenList := ofLexing (text.length + 1) (.start text)

end TokenList

end SchemaMigration.Yaml
