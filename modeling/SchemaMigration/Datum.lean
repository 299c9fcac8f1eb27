import SchemaMigration.Timestamp.Basic
import SchemaMigration.Value.Basic

namespace SchemaMigration

inductive Datum
  | plain (v : Value)
  | day (year month day : Nat)
  | moment (t : Timestamp)
  | bytes (content : List Nat)
  | list (items : List Datum)
  | pair (first second : Datum)
  | set (members : List Datum)
  | mapping (entries : List (Datum × Datum))
  deriving Inhabited

namespace Datum

def null : Datum := .plain .null

def text (s : String) : Datum := .plain (.text s)

def isNull : Datum → Bool
  | .plain v => v.isNull
  | _ => false

def text? : Datum → Option String
  | .plain (.text s) => some s
  | _ => none

mutual
def ofValue : Value → Datum
  | .list items => .list (ofItems items)
  | .object fields => .mapping (ofFields fields)
  | v => .plain v

def ofItems : List Value → List Datum
  | [] => []
  | v :: rest => ofValue v :: ofItems rest

def ofFields : List (String × Value) → List (Datum × Datum)
  | [] => []
  | (k, v) :: rest => (text k, ofValue v) :: ofFields rest
end

/-- A datum is used as a flag by its truth: what is empty is false, days and points in time are
true. -/
def isTrue : Datum → Bool
  | .plain v => v.isTrue
  | .day .. | .moment _ | .pair .. => true
  | .bytes content => !content.isEmpty
  | .list items => !items.isEmpty
  | .set members => !members.isEmpty
  | .mapping entries => !entries.isEmpty

def isKey : Datum → Bool
  | .list _ | .set _ | .mapping _ => false
  | .pair a b => isKey a && isKey b
  | _ => true

def whole? : Datum → Option Int
  | .plain (.bool b) => some (if b then 1 else 0)
  | .plain (.int n) => some n
  | .plain (.float x) =>
    match x.truncated? with
    | some n => if x.compare? (Binary64.ofInt n) == some .eq then some n else none
    | none => none
  | _ => none

/-- Whether two data are one key. Numbers are by their value: a truth value, a whole number and a
binary number can be the same key. -/
def sameKey : Datum → Datum → Bool
  | .plain a, .plain b =>
    match whole? (.plain a), whole? (.plain b) with
    | some m, some n => m == n
    | none, none => a == b
    | _, _ => false
  | .day y m d, .day y' m' d' => y == y' && m == m' && d == d'
  | .moment t, .moment u =>
    (t.offset.isSome == u.offset.isSome) && Timestamp.secondsBetween? t u ==
      some (Binary64.zero false)
  | .bytes a, .bytes b => a == b
  | .pair a b, .pair c d => sameKey a c && sameKey b d
  | _, _ => false

def putEntry (key value : Datum) : List (Datum × Datum) → List (Datum × Datum)
  | [] => [(key, value)]
  | (k, v) :: rest =>
    if sameKey k key then (k, value) :: rest else (k, v) :: putEntry key value rest

def putMember (member : Datum) (members : List Datum) : List Datum :=
  if members.any (sameKey member) then members else members ++ [member]

def zoneText (micros : Int) : String :=
  if micros == 0 then "datetime.timezone.utc"
  else "datetime.timezone(" ++ lengthText micros ++ ")"

/-- The numbers of a point in time as messages show them; seconds and microseconds are left out from
the end if they are none. -/
def momentText (t : Timestamp) : String :=
  let seconds :=
    if t.micro != 0 then [t.second, t.micro] else if t.second != 0 then [t.second] else []
  let zone := match t.offset with
    | some n => ["tzinfo=" ++ zoneText n]
    | none => []
  "datetime.datetime(" ++ Text.join ", "
    (([t.year, t.month, t.day, t.hour, t.minute] ++ seconds).map toString ++ zone) ++ ")"

def byteText (mark : Char) (n : Nat) : List Char :=
  let c := Char.ofNat n
  if c == mark || c == '\\' then ['\\', c]
  else if c == '\n' then ['\\', 'n']
  else if c == '\r' then ['\\', 'r']
  else if c == '\t' then ['\\', 't']
  else if 0x20 ≤ n && n < 0x7F then [c]
  else '\\' :: 'x' :: Text.hexDigits 2 n

def bytesText (content : List Nat) : String :=
  let mark := Text.quoteMark (content.map Char.ofNat)
  String.ofList ('b' :: mark :: content.flatMap (byteText mark) ++ [mark])

mutual
def shown : Datum → String
  | .plain v => v.shown
  | .day y m d =>
    "datetime.date(" ++ toString y ++ ", " ++ toString m ++ ", " ++ toString d ++ ")"
  | .moment t => momentText t
  | .bytes content => bytesText content
  | .list items => "[" ++ Text.join ", " (shownItems items) ++ "]"
  | .pair a b => "(" ++ shown a ++ ", " ++ shown b ++ ")"
  | .set [] => "set()"
  | .set members => "\x7b" ++ Text.join ", " (shownItems members) ++ "\x7d"
  | .mapping entries => "\x7b" ++ Text.join ", " (shownEntries entries) ++ "\x7d"

def shownItems : List Datum → List String
  | [] => []
  | d :: rest => shown d :: shownItems rest

def shownEntries : List (Datum × Datum) → List String
  | [] => []
  | (k, d) :: rest => (shown k ++ ": " ++ shown d) :: shownEntries rest
end

/-- The text of a datum: a text is its own, a day and a point in time are written plainly, and all
else as it is shown. -/
def display : Datum → String
  | .plain v => v.display
  | .day y m d => String.ofList (Timestamp.dateChars y m d)
  | .moment t => t.spaced
  | d => d.shown

mutual
def isTooLong : Datum → Bool
  | .plain (.int n) => pow10 4300 ≤ n.natAbs
  | .list items => areTooLong items
  | .set members => areTooLong members
  | .pair a b => isTooLong a || isTooLong b
  | .mapping entries => haveTooLong entries
  | _ => false

def areTooLong : List Datum → Bool
  | [] => false
  | d :: rest => isTooLong d || areTooLong rest

def haveTooLong : List (Datum × Datum) → Bool
  | [] => false
  | (k, d) :: rest => isTooLong k || isTooLong d || haveTooLong rest
end

mutual
def toValue : Datum → Value
  | .plain v => v
  | .day y m d => .text (String.ofList (Timestamp.dateChars y m d))
  | .moment t => .text t.text
  | .bytes content => .text (bytesText content)
  | .list items => .list (toItems items)
  | .pair a b => .list [toValue a, toValue b]
  | .set members => .list (toItems members)
  | .mapping entries => .object (toFields [] entries)

def toItems : List Datum → List Value
  | [] => []
  | d :: rest => toValue d :: toItems rest

def toFields (seen : List (String × Value)) : List (Datum × Datum) → List (String × Value)
  | [] => seen
  | (k, d) :: rest => toFields (putPair k.display (toValue d) seen) rest
end

end Datum

end SchemaMigration
