import SchemaMigration.Yaml.Cursor

namespace SchemaMigration.Yaml

def folded (first : Char) (more : List Char) : List Char :=
  if first != '\n' then first :: more else if more.isEmpty then [' '] else more

def endsPlain (inFlow : Bool) (c : Char) (rest : List Char) : Bool :=
  isBlank c ||
    (c == ':' &&
      (endsToken rest || (inFlow && (rest.head?.map ",[]\x7b\x7d".toList.contains).getD false))) ||
    (inFlow && ",?[]\x7b\x7d".toList.contains c)

def plainLength (inFlow : Bool) : List Char → Nat
  | [] => 0
  | c :: rest => if endsPlain inFlow c rest then 0 else plainLength inFlow rest + 1

def startsPlain (inFlow : Bool) : List Char → Bool
  | [] => false
  | c :: rest =>
    if isBlank c || ",[]\x7b\x7d#&*!|>'\"%@\u0060".toList.contains c then false
    else if c == '-' then !endsToken rest
    else if c == '?' || c == ':' then !inFlow && !endsToken rest
    else true

structure Gap where
  text : Option (List Char)
  hasBreak : Bool
  after : Cursor

def plainBreaks : Nat → List Char → Cursor → Option (List Char) × Cursor
  | 0, breaks, cur => (some breaks, cur)
  | fuel + 1, breaks, cur =>
    if cur.peek? == some ' ' then plainBreaks fuel breaks cur.skipSpaces
    else
      match cur.lineBreak? with
      | none => (some breaks, cur)
      | some (c, cur) =>
        if cur.atMarker then (none, cur) else plainBreaks fuel (breaks ++ [c]) cur

def gap (cur : Cursor) : Gap :=
  let spaces := cur.rest.takeWhile (· == ' ')
  let after := cur.skipSpaces
  match after.lineBreak? with
  | none => ⟨if spaces.isEmpty then none else some spaces, false, after⟩
  | some (c, after) =>
    if after.atMarker then ⟨none, true, after⟩
    else
      let (breaks, after) := plainBreaks (after.rest.length + 1) [] after
      ⟨breaks.map (folded c), true, after⟩

/-- A plain text from here on, the place after it and the blanks behind it, and whether that is on a
new line. Lines that follow start at a column that is not below the margin. -/
def plainText (inFlow : Bool) (margin : Nat) :
    Nat → List Char → Bool → Cursor → List Char × Bool × Cursor
  | 0, _, onNewLine, cur => ([], onNewLine, cur)
  | fuel + 1, before, onNewLine, cur =>
    let n := plainLength inFlow cur.rest
    if n == 0 || cur.peek? == some '#' then ([], onNewLine, cur)
    else
      let run := before ++ cur.rest.take n
      let g := gap (cur.advance n)
      match g.text with
      | none => (run, g.hasBreak, g.after)
      | some between =>
        if g.after.peek? == some '#' || (!inFlow && g.after.column < margin) then
          (run, g.hasBreak, g.after)
        else
          let (more, onNewLine, after) := plainText inFlow margin fuel between g.hasBreak g.after
          (run ++ more, onNewLine, after)

def simpleEscapes : List (Char × Char) := [
  ('0', '\x00'), ('a', '\x07'), ('b', '\x08'), ('t', '\t'), ('\t', '\t'), ('n', '\n'),
  ('v', '\x0b'), ('f', '\x0c'), ('r', '\r'), ('e', '\x1b'), (' ', ' '), ('"', '"'),
  ('\\', '\\'), ('/', '/'), ('N', '\u0085'), ('_', '\u00a0'), ('L', '\u2028'), ('P', '\u2029')]

def codeLength? (c : Char) : Option Nat :=
  match c with
  | 'x' => some 2
  | 'u' => some 4
  | 'U' => some 8
  | _ => none

def code? (length : Nat) (s : List Char) : Option Nat :=
  let digits := s.take length
  if digits.length == length && digits.all fun c => (Json.hexValue? c).isSome then
    some (digits.foldl (fun n c => n * 16 + (Json.hexValue? c).getD 0) 0)
  else none

def quotedBreaks : Nat → Cursor → Except Fault (List Char × Cursor)
  | 0, _ => .error .malformed
  | fuel + 1, cur =>
    if cur.atMarker then .error .malformed
    else
      let cur := cur.skipWhile isBlankInLine
      match cur.lineBreak? with
      | none => .ok ([], cur)
      | some (c, cur) => do
        let (more, cur) ← quotedBreaks fuel cur
        .ok (c :: more, cur)

def quotedBlanks (cur : Cursor) : Except Fault (List Char × Cursor) :=
  let blanks := cur.rest.takeWhile isBlankInLine
  let after := cur.skipWhile isBlankInLine
  match after.lineBreak?, after.isEnd with
  | none, true => .error .malformed
  | none, false => .ok (blanks, after)
  | some (c, after), _ => do
    let (more, after) ← quotedBreaks (after.rest.length + 1) after
    .ok (folded c more, after)

def escape (cur : Cursor) : Except Fault (List Char × Cursor) :=
  match cur.peek? with
  | none => .error .malformed
  | some e =>
    match simpleEscapes.lookup e, codeLength? e with
    | some c, _ => .ok ([c], cur.next)
    | none, some n =>
      match code? n cur.next.rest with
      | some code =>
        if 0x10FFFF < code then .error (.noCharacter code)
        else .ok ([Json.unitChar code], cur.next.advance n)
      | none => .error .malformed
    | none, none =>
      match cur.lineBreak? with
      | some (_, after) => quotedBreaks (after.rest.length + 1) after
      | none => .error .malformed

def quotedRest (mark : Char) : Nat → Cursor → Except Fault (List Char × Cursor)
  | 0, _ => .error .malformed
  | fuel + 1, cur =>
    match cur.rest with
    | [] => .error .malformed
    | c :: rest => do
      let (part, after) ←
        if c == mark then
          if mark == '\'' && rest.head? == some '\'' then
            .ok ([c], cur.advance 2) else .ok ([], cur)
        else if isBlank c then quotedBlanks cur
        else if mark == '"' && c == '\\' then escape cur.next
        else .ok ([c], cur.next)
      if after.index == cur.index then .ok ([], cur.next)
      else
        let (more, after) ← quotedRest mark fuel after
        .ok (part ++ more, after)

def quotedText (mark : Char) (cur : Cursor) : Except Fault (List Char × Cursor) :=
  quotedRest mark (cur.rest.length + 1) cur.next

end SchemaMigration.Yaml
