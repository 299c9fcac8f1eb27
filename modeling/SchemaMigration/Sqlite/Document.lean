import SchemaMigration.Json.Printer
import SchemaMigration.Json.Reader
import SchemaMigration.Sqlite.Cell

namespace SchemaMigration.Sqlite

inductive Lettering
  | plain (s : List Char)
  | escaped (s : List Char)
  deriving DecidableEq, Repr

inductive Document
  | null
  | bool (b : Bool)
  | number (written : List Char)
  | text (t : Lettering)
  | list (items : List Document)
  | object (fields : List (Lettering × Document))
  deriving Repr

namespace Lettering

def isLineEnd (c : Char) : Bool := c == '\n' || c == '\u2028' || c == '\u2029'

def hexValue (digits : List Char) : Nat :=
  digits.foldl (fun n c => n * 16 + (Json.hexValue? c).getD 0) 0

def decoded : Nat → List Char → List Char
  | 0, _ | _, [] => []
  | fuel + 1, '\\' :: c :: rest =>
    match c with
    | 'u' =>
      match Json.escapedCode? rest with
      | some (d, rest) => d :: decoded fuel rest
      | none => decoded fuel rest
    | 'x' => Char.ofNat (hexValue (rest.take 2)) :: decoded fuel (rest.drop 2)
    | 'b' => '\x08' :: decoded fuel rest
    | 'f' => '\x0c' :: decoded fuel rest
    | 'n' => '\n' :: decoded fuel rest
    | 'r' => '\r' :: decoded fuel rest
    | 't' => '\t' :: decoded fuel rest
    | 'v' => '\x0b' :: decoded fuel rest
    | '0' =>
      if (rest.head?.map Json.isDigit).getD false then decoded fuel rest
      else '\x00' :: decoded fuel rest
    | '\r' => decoded fuel (if rest.head? == some '\n' then rest.drop 1 else rest)
    | c => if isLineEnd c then decoded fuel rest else c :: decoded fuel rest
  | fuel + 1, c :: rest => c :: decoded fuel rest

def chars : Lettering → List Char
  | .plain s => s
  | .escaped s => decoded (s.length + 1) s

def same (a b : Lettering) : Bool := a.chars == b.chars

def controlChars (c : Char) : List Char :=
  if c == '\x08' then ['\\', 'b']
  else if c == '\t' then ['\\', 't']
  else if c == '\n' then ['\\', 'n']
  else if c == '\x0c' then ['\\', 'f']
  else if c == '\r' then ['\\', 'r']
  else Json.unitEscape c.toNat

def plainChar (c : Char) : List Char :=
  if c == '"' || c == '\\' then ['\\', c]
  else if c.toNat < 0x20 then controlChars c
  else [c]

def standard : Nat → List Char → List Char
  | 0, _ | _, [] => []
  | fuel + 1, '\\' :: c :: rest =>
    match c with
    | '\'' => '\'' :: standard fuel rest
    | 'v' => '\\' :: 'u' :: '0' :: '0' :: '0' :: 'b' :: standard fuel rest
    | 'x' => '\\' :: 'u' :: '0' :: '0' :: rest.take 2 ++ standard fuel (rest.drop 2)
    | '0' => '\\' :: 'u' :: '0' :: '0' :: '0' :: '0' :: standard fuel rest
    | '\r' => standard fuel (if rest.head? == some '\n' then rest.drop 1 else rest)
    | c => if isLineEnd c then standard fuel rest else '\\' :: c :: standard fuel rest
  | fuel + 1, c :: rest =>
    (if c == '"' then ['\\', '"'] else if c.toNat < 0x20 then controlChars c else [c]) ++
      standard fuel rest

def quoted : Lettering → List Char
  | .plain s => '"' :: s.flatMap plainChar ++ ['"']
  | .escaped s => '"' :: standard (s.length + 1) s ++ ['"']

end Lettering

namespace Document

def hexDigits? (written : List Char) : Option (List Char) :=
  match written.dropWhile (· == '-') with
  | '0' :: x :: digits => if x == 'x' || x == 'X' then some digits else none
  | _ => none

def isWhole (written : List Char) : Bool :=
  (hexDigits? written).isSome || !written.any fun c => c == '.' || c == 'e' || c == 'E'

def completed : Option Char → List Char → List Char
  | _, [] => []
  | before, '.' :: rest =>
    (if (before.map Json.isDigit).getD false then ['.'] else ['0', '.']) ++
      (if (rest.head?.map Json.isDigit).getD false then [] else ['0']) ++ completed (some '.') rest
  | _, c :: rest => c :: completed (some c) rest

def numberChars (written : List Char) : List Char :=
  match hexDigits? written with
  | some digits =>
    let n := Lettering.hexValue digits
    written.takeWhile (· == '-') ++
      (if pow2 64 ≤ n then "9.0e999".toList else Nat.toDigits 10 n)
  | none => completed none written

def numberCell (written : List Char) : Cell :=
  let negative := written.head? == some '-'
  match hexDigits? written with
  | some digits =>
    let n := Lettering.hexValue digits
    let wrapped : Int := if n < pow2 63 then n else (n : Int) - pow2 64
    if pow2 64 ≤ n then
      .ofReal (.infinite negative) else .int (if negative then -wrapped else wrapped)
  | none =>
    match Cell.numberOf? (String.ofList written) with
    | some c => if isWhole written then c else .ofReal c.toReal
    | none => .null

mutual
def chars : Document → List Char
  | .null => "null".toList
  | .bool b => (if b then "true" else "false").toList
  | .number written => numberChars written
  | .text t => t.quoted
  | .list items => '[' :: itemChars items ++ [']']
  | .object fields => '{' :: fieldChars fields ++ ['}']

def itemChars : List Document → List Char
  | [] => []
  | [d] => chars d
  | d :: rest => chars d ++ ',' :: itemChars rest

def fieldChars : List (Lettering × Document) → List Char
  | [] => []
  | [(k, d)] => k.quoted ++ ':' :: chars d
  | (k, d) :: rest => k.quoted ++ ':' :: chars d ++ ',' :: fieldChars rest
end

def lineStart (indent : List Char) (depth : Nat) : List Char :=
  '\n' :: (List.replicate depth indent).flatten

mutual
def tallChars (indent : List Char) (depth : Nat) : Document → List Char
  | .list [] => ['[', ']']
  | .list items =>
    '[' :: lineStart indent (depth + 1) ++ tallItems indent (depth + 1) items ++
      lineStart indent depth ++ [']']
  | .object [] => ['{', '}']
  | .object fields =>
    '{' :: lineStart indent (depth + 1) ++ tallFields indent (depth + 1) fields ++
      lineStart indent depth ++ ['}']
  | d => chars d

def tallItems (indent : List Char) (depth : Nat) : List Document → List Char
  | [] => []
  | [d] => tallChars indent depth d
  | d :: rest =>
    tallChars indent depth d ++ ',' :: lineStart indent depth ++ tallItems indent depth rest

def tallFields (indent : List Char) (depth : Nat) : List (Lettering × Document) → List Char
  | [] => []
  | [(k, d)] => k.quoted ++ ':' :: ' ' :: tallChars indent depth d
  | (k, d) :: rest =>
    k.quoted ++ ':' :: ' ' :: tallChars indent depth d ++ ',' :: lineStart indent depth ++
      tallFields indent depth rest
end

def display (d : Document) : String := String.ofList d.chars

def kindName : Document → String
  | .null => "null"
  | .bool b => if b then "true" else "false"
  | .number written => if isWhole written then "integer" else "real"
  | .text _ => "text"
  | .list _ => "array"
  | .object _ => "object"

def toCell : Document → Cell
  | .null => .null
  | .bool b => .ofBool b
  | .number written => numberCell written
  | .text t => .text (String.ofList t.chars)
  | d => .text d.display

def hasParts : Document → Bool
  | .list _ | .object _ => true
  | _ => false

end Document

end SchemaMigration.Sqlite
