import SchemaMigration.Yaml.Cursor

namespace SchemaMigration.Yaml

/-- What happens to the line breaks at the end of a block: all but one are dropped, all are dropped,
or all are kept. -/
inductive Chomping
  | clip
  | strip
  | keep
  deriving DecidableEq, Repr

structure BlockHeader where
  chomping : Chomping := .clip
  indent : Option Nat := none
  deriving DecidableEq, Repr

namespace BlockHeader

def chompingOf? : Char → Option Chomping
  | '+' => some .keep
  | '-' => some .strip
  | _ => none

def indentOf? (c : Char) : Option Nat := if c.isDigit then some (c.toNat - 0x30) else none

def read (h : BlockHeader) (hasChomping : Bool) : Nat → Cursor → Except Fault (BlockHeader × Cursor)
  | 0, cur => .ok (h, cur)
  | fuel + 1, cur =>
    match cur.peek? with
    | none => .ok (h, cur)
    | some c =>
      match chompingOf? c, indentOf? c with
      | some chomping, _ =>
        if hasChomping then
          .ok (h, cur) else read { h with chomping := chomping } true fuel cur.next
      | none, some n =>
        if h.indent.isSome then .ok (h, cur)
        else if n == 0 then .error .malformed
        else read { h with indent := some n } hasChomping fuel cur.next
      | none, none => .ok (h, cur)

def ofCursor (cur : Cursor) : Except Fault (BlockHeader × Cursor) := do
  let (h, cur) ← read {} false 2 cur
  if !endsWord cur.rest then .error .malformed
  else
    let cur ← orMalformed cur.lineEnd?
    .ok (h, cur)

end BlockHeader

def leadingLines : Nat → List Char → Nat → Cursor → List Char × Nat × Cursor
  | 0, breaks, widest, cur => (breaks, widest, cur)
  | fuel + 1, breaks, widest, cur =>
    if cur.peek? == some ' ' then leadingLines fuel breaks (max widest cur.next.column) cur.next
    else
      match cur.lineBreak? with
      | some (c, cur) => leadingLines fuel (breaks ++ [c]) widest cur
      | none => (breaks, widest, cur)

def toIndent (indent : Nat) (cur : Cursor) : Cursor :=
  cur.advance (min (indent - cur.column) (cur.rest.takeWhile (· == ' ')).length)

def blockBreaks (indent : Nat) : Nat → List Char → Cursor → List Char × Cursor
  | 0, breaks, cur => (breaks, cur)
  | fuel + 1, breaks, cur =>
    let cur := toIndent indent cur
    match cur.lineBreak? with
    | some (c, cur) => blockBreaks indent fuel (breaks ++ [c]) cur
    | none => (breaks, cur)

structure BlockEnd where
  lineBreak : List Char := []
  breaks : List Char

def blockLines (isFolded : Bool) (indent : Nat) :
    Nat → List Char → Cursor → List Char × BlockEnd × Cursor
  | 0, breaks, cur => ([], ⟨[], breaks⟩, cur)
  | fuel + 1, breaks, cur =>
    if cur.column != indent || cur.isEnd then ([], ⟨[], breaks⟩, cur)
    else
      let startsBlank := (cur.peek?.map isBlankInLine).getD false
      let line := cur.rest.takeWhile fun c => !isBreak c
      let after := cur.advance line.length
      let (lineBreak, after) :=
        match after.lineBreak? with
        | some (c, after) => ([c], after)
        | none => ([], after)
      let (next, after) := blockBreaks indent (after.rest.length + 1) [] after
      if after.column == indent && !after.isEnd then
        let nextBlank := (after.peek?.map isBlankInLine).getD false
        let between :=
          if isFolded && lineBreak == ['\n'] && !startsBlank && !nextBlank then
            (if next.isEmpty then [' '] else [])
          else lineBreak
        let (more, stop, after) := blockLines isFolded indent fuel next after
        (breaks ++ line ++ between ++ more, stop, after)
      else (breaks ++ line, ⟨lineBreak, next⟩, after)

def blockText (isFolded : Bool) (margin : Nat) (cur : Cursor) :
    Except Fault (List Char × Cursor) := do
  let (header, cur) ← BlockHeader.ofCursor cur
  let fuel := cur.rest.length + 1
  let least := max 1 margin
  let (indent, breaks, cur) :=
    match header.indent with
    | none =>
      let (breaks, widest, cur) := leadingLines fuel [] 0 cur
      (max least widest, breaks, cur)
    | some n =>
      let indent := least + n - 1
      let (breaks, cur) := blockBreaks indent fuel [] cur
      (indent, breaks, cur)
  let (text, stop, cur) := blockLines isFolded indent fuel breaks cur
  let tail :=
    match header.chomping with
    | .clip => stop.lineBreak
    | .strip => []
    | .keep => stop.lineBreak ++ stop.breaks
  .ok (text ++ tail, cur)

end SchemaMigration.Yaml
