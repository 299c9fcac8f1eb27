import SchemaMigration.Number.Reading
import SchemaMigration.Timestamp.Basic

namespace SchemaMigration.Yaml

/-- Why a text has no data. Texts that break the rules of the notation are malformed; the other
faults come from scalars whose tags promise what their texts do not hold. -/
inductive Fault
  | malformed
  | number (e : NumberError)
  | time (e : TimestampError)
  | noTruth (word : String)
  | noTime
  | noDigit
  | noCharacter (code : Nat)
  | large
  | deep
  deriving DecidableEq, Repr

structure Cursor where
  rest : List Char
  index : Nat := 0
  line : Nat := 0
  column : Nat := 0
  deriving Repr

def isBreak (c : Char) : Bool :=
  c == '\n' || c == '\r' || c == '\u0085' || c == '\u2028' || c == '\u2029'

def breakText (c : Char) : Char := if c == '\u2028' || c == '\u2029' then c else '\n'

def isBlankInLine (c : Char) : Bool := c == ' ' || c == '\t'

def isBlank (c : Char) : Bool := isBlankInLine c || isBreak c

def orderMark : Char := '\uFEFF'

def endsLine (s : List Char) : Bool := (s.head?.map isBreak).getD true

def endsToken (s : List Char) : Bool := (s.head?.map isBlank).getD true

def endsWord (s : List Char) : Bool := endsLine s || s.head? == some ' '

def isMarker (s : List Char) : Bool :=
  ("---".toList.isPrefixOf s || "...".toList.isPrefixOf s) && endsToken (s.drop 3)

def isWordChar (c : Char) : Bool := c.isAlphanum || c == '-' || c == '_'

namespace Cursor

def isEnd (cur : Cursor) : Bool := cur.rest.isEmpty

def peek? (cur : Cursor) : Option Char := cur.rest.head?

def next (cur : Cursor) : Cursor :=
  match cur.rest with
  | [] => cur
  | c :: rest =>
    if isBreak c then ⟨rest, cur.index + 1, cur.line + 1, 0⟩
    else ⟨rest, cur.index + 1, cur.line, if c == orderMark then cur.column else cur.column + 1⟩

def advance (cur : Cursor) : Nat → Cursor
  | 0 => cur
  | n + 1 => cur.next.advance n

def skipWhile (cur : Cursor) (p : Char → Bool) : Cursor := cur.advance (cur.rest.takeWhile p).length

def skipSpaces (cur : Cursor) : Cursor := cur.skipWhile (· == ' ')

def lineBreak? (cur : Cursor) : Option (Char × Cursor) :=
  match cur.rest with
  | '\r' :: '\n' :: _ => some ('\n', cur.advance 2)
  | c :: _ => if isBreak c then some (breakText c, cur.next) else none
  | [] => none

def atMarker (cur : Cursor) : Bool := isMarker cur.rest

def lineEnd? (cur : Cursor) : Option Cursor :=
  let cur := cur.skipSpaces
  let cur := if cur.peek? == some '#' then cur.skipWhile fun c => !isBreak c else cur
  if endsLine cur.rest then some (((cur.lineBreak?).map (·.2)).getD cur) else none

end Cursor

def orMalformed {α : Type} (result : Option α) : Except Fault α :=
  match result with
  | some a => .ok a
  | none => .error .malformed

end SchemaMigration.Yaml
