import SchemaMigration.Value.Basic

/-! Values as JSON text, in ASCII only. The compact form has no blanks; with the fields of every
object in the order of their names it is canonical, so that two values have one canonical text
when they differ in nothing but the order of fields. -/

namespace SchemaMigration

/-- The characters and, beside them, the surrogates, which a text can be made of as well. -/
abbrev CodePoint := Fin 0x110000

def CodePoint.ofChar (c : Char) : CodePoint :=
  ⟨c.toNat, by
    rcases c.valid with low | ⟨-, high⟩
    · exact Nat.lt_trans low (by decide)
    · exact high⟩

def codes (s : String) : List CodePoint := s.toList.map CodePoint.ofChar

/-- A plain value whose texts are any rows of code points. -/
inductive WideValue
  | null
  | bool (b : Bool)
  | int (n : Int)
  | float (x : Binary64)
  | text (s : List CodePoint)
  | list (items : List WideValue)
  | object (fields : List (List CodePoint × WideValue))
  deriving Inhabited

mutual
def Value.widen : Value → WideValue
  | .null => .null
  | .bool b => .bool b
  | .int n => .int n
  | .float x => .float x
  | .text s => .text (codes s)
  | .list items => .list (widenItems items)
  | .object fields => .object (widenFields fields)

def Value.widenItems : List Value → List WideValue
  | [] => []
  | v :: rest => v.widen :: widenItems rest

def Value.widenFields : List (String × Value) → List (List CodePoint × WideValue)
  | [] => []
  | (k, v) :: rest => (codes k, v.widen) :: widenFields rest
end

namespace Json

def unitEscape (n : Nat) : List Char := '\\' :: 'u' :: Text.hexDigits 4 n

def units (n : CodePoint) : List Nat :=
  if n.val < 0x10000 then [n.val]
  else [0xD800 + (n.val - 0x10000) / 0x400, 0xDC00 + (n.val - 0x10000) % 0x400]

def unitText (n : Nat) : List Char :=
  if n == '"'.toNat then ['\\', '"']
  else if n == '\\'.toNat then ['\\', '\\']
  else if n == '\n'.toNat then ['\\', 'n']
  else if n == '\r'.toNat then ['\\', 'r']
  else if n == '\t'.toNat then ['\\', 't']
  else if n == '\x08'.toNat then ['\\', 'b']
  else if n == '\x0c'.toNat then ['\\', 'f']
  else if 0x20 ≤ n && n ≤ 0x7E then [Char.ofNat n]
  else unitEscape n

def stringText (s : List CodePoint) : List Char :=
  '"' :: (s.flatMap units).flatMap unitText ++ ['"']

def floatText : Binary64 → List Char
  | .nan => "NaN".toList
  | .infinite negative => (if negative then "-Infinity" else "Infinity").toList
  | x => x.textChars

mutual
def compactChars : WideValue → List Char
  | .null => "null".toList
  | .bool b => (if b then "true" else "false").toList
  | .int n => (toString n).toList
  | .float x => floatText x
  | .text s => stringText s
  | .list items => '[' :: compactItems items ++ [']']
  | .object fields => '{' :: compactFields fields ++ ['}']

def compactItems : List WideValue → List Char
  | [] => []
  | [v] => compactChars v
  | v :: rest => compactChars v ++ ',' :: compactItems rest

def compactFields : List (List CodePoint × WideValue) → List Char
  | [] => []
  | [(k, v)] => stringText k ++ ':' :: compactChars v
  | (k, v) :: rest => stringText k ++ ':' :: compactChars v ++ ',' :: compactFields rest
end

def precedes : List CodePoint → List CodePoint → Bool
  | [], _ => true
  | _ :: _, [] => false
  | a :: s, b :: t => a.val < b.val || (a.val == b.val && precedes s t)

def sortFields (fields : List (List CodePoint × WideValue)) : List (List CodePoint × WideValue) :=
  fields.mergeSort fun a b => precedes a.1 b.1

mutual
def sorted : WideValue → WideValue
  | .list items => .list (sortedItems items)
  | .object fields => .object (sortFields (sortedFields fields))
  | v => v

def sortedItems : List WideValue → List WideValue
  | [] => []
  | v :: rest => sorted v :: sortedItems rest

def sortedFields : List (List CodePoint × WideValue) → List (List CodePoint × WideValue)
  | [] => []
  | (k, v) :: rest => (k, sorted v) :: sortedFields rest
end

def compact (v : Value) : String := String.ofList (compactChars v.widen)

def canonical (v : WideValue) : String := String.ofList (compactChars (sorted v))

def lineBreak (depth : Nat) : List Char := '\n' :: List.replicate (2 * depth) ' '

mutual
def indentedChars (depth : Nat) : WideValue → List Char
  | .list [] => ['[', ']']
  | .list items =>
    '[' :: lineBreak (depth + 1) ++ indentedItems (depth + 1) items ++ lineBreak depth ++ [']']
  | .object [] => ['{', '}']
  | .object fields =>
    '{' :: lineBreak (depth + 1) ++ indentedFields (depth + 1) fields ++ lineBreak depth ++ ['}']
  | v => compactChars v

def indentedItems (depth : Nat) : List WideValue → List Char
  | [] => []
  | [v] => indentedChars depth v
  | v :: rest => indentedChars depth v ++ ',' :: lineBreak depth ++ indentedItems depth rest

def indentedFields (depth : Nat) : List (List CodePoint × WideValue) → List Char
  | [] => []
  | [(k, v)] => stringText k ++ ':' :: ' ' :: indentedChars depth v
  | (k, v) :: rest =>
    stringText k ++ ':' :: ' ' :: indentedChars depth v ++
      ',' :: lineBreak depth ++ indentedFields depth rest
end

def indented (v : Value) : String := String.ofList (indentedChars 0 v.widen)

end Json

end SchemaMigration
