import SchemaMigration.Json.Reader
import SchemaMigration.Number.Elementary
import SchemaMigration.Sqlite.Cell
import SchemaMigration.Text.Hex

namespace SchemaMigration.Sqlite.Cell

def quotedReal (x : Binary64) : String :=
  let short := String.ofList ({ realDirective with zeros := true }.realChars .general false x)
  if (numberOf? short).any fun c => c.toReal.compare? x == some .eq then short
  else
    let d : Directive := { full := true, zeros := true, precision := some 20 }
    String.ofList (d.realChars .scientific false x)

def quoted : Cell → String
  | .null => "NULL"
  | .int n => toString n
  | .real x => quotedReal x
  | .text s =>
    String.ofList ('\'' :: s.toList.flatMap (fun c => if c == '\'' then [c, c] else [c]) ++ ['\''])
  | .bytes content =>
    "X'" ++ (String.ofList (content.flatMap (Text.hexDigits 2))).toUpper ++ "'"

def kindName : Cell → String
  | .null => "null"
  | .int _ => "integer"
  | .real _ => "real"
  | .text _ => "text"
  | .bytes _ => "blob"

def toBytes : Cell → List Nat
  | .bytes content => content
  | c => c.toText.toUTF8.toList.map UInt8.toNat

/-- The part of a list from a place, counted from one or back from the end, of some length, which
goes backwards if it is negative. -/
def part {α : Type} (xs : List α) (start length : Int) : List α :=
  let first := if start < 0 then xs.length + start else if start == 0 then 0 else start - 1
  let last := if start == 0 && 0 ≤ length then first + length - 1 else first + length
  let low := (min first last).toNat
  (xs.drop low).take ((max first last).toNat - low)

def greatestLength : Int := 1000000000

def toShort (c : Cell) : Int := Int.bmod c.toInt (pow2 32)

def substring (t start : Cell) (length : Option Cell) : Cell :=
  if t.isNull || start.isNull || length == some .null then .null
  else
    let n := (length.map toShort).getD greatestLength
    match t with
    | .bytes [] => .null
    | .bytes content => .bytes (part content start.toShort n)
    | t => .text (String.ofList (part t.chars start.toShort n))

def place {α : Type} [BEq α] (found : List α) : Nat → List α → Nat
  | n, [] => if found.isEmpty then n + 1 else 0
  | n, x :: xs => if found.isPrefixOf (x :: xs) then n + 1 else place found (n + 1) xs

def replaceAll (old new : List Char) : Nat → List Char → List Char
  | 0, s => s
  | _ + 1, [] => []
  | fuel + 1, c :: rest =>
    if old.isPrefixOf (c :: rest) then new ++ replaceAll old new fuel ((c :: rest).drop old.length)
    else c :: replaceAll old new fuel rest

def trimOf (members s : List Char) (left right : Bool) : List Char :=
  let s := if left then s.dropWhile members.contains else s
  if right then (s.reverse.dropWhile members.contains).reverse else s

def unhex? (members : List Char) : List Char → Option (List Nat)
  | [] => some []
  | a :: rest =>
    match Json.hexValue? a, rest with
    | none, rest => if members.contains a then unhex? members rest else none
    | some high, b :: rest => do
      let low ← Json.hexValue? b
      let more ← unhex? members rest
      some ((high * 16 + low) :: more)
    | some _, [] => none

def wholeLimit : Binary64 := .ofInt 4503599627370496

def rounded (x : Binary64) (places : Nat) : Binary64 :=
  if x.abs.compare? wholeLimit == some .gt then x
  else if places == 0 then
    let half := Binary64.ofRatio false 1 2
    .ofInt (cutReal (if x.isNegative && !x.isZero then x.sub half else x.add half))
  else
    let d : Directive := { full := true, precision := some places }
    (numberRun (d.realChars .fixed false x)).1.elim x toReal

end SchemaMigration.Sqlite.Cell
