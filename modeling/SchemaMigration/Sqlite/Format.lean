import SchemaMigration.Sqlite.Cell
import SchemaMigration.Sqlite.Fault

namespace SchemaMigration.Sqlite.Format

def tooBig : Fault := .data "string or blob too big"

def greatestWidth : Nat := 1000000000

def next (cells : List Cell) : Cell × List Cell := (cells.headD .null, cells.drop 1)

def shortInt (c : Cell) : Int := Int.bmod c.toInt (pow2 32)

def flag? (d : Directive) : Char → Option Directive
  | '-' => some { d with toLeft := true }
  | '+' => some { d with sign := some '+' }
  | ' ' => some { d with sign := some ' ' }
  | '#' => some { d with alternate := true }
  | '!' => some { d with full := true }
  | '0' => some { d with zeros := true }
  | ',' => some { d with grouped := true }
  | _ => none

def flags (d : Directive) : List Char → Directive × List Char
  | [] => (d, [])
  | c :: rest =>
    match flag? d c with
    | some d => flags d rest
    | none => (d, c :: rest)

def sizeOf (s : List Char) : Nat := Json.digitsValue (s.takeWhile Json.isDigit) % pow2 31

def width (d : Directive) (cells : List Cell) (s : List Char) : Directive × List Cell × List Char :=
  match s with
  | '*' :: rest =>
    let (c, cells) := next cells
    let n := shortInt c
    (if n < 0 then { d with toLeft := true, width := (min (-n) (pow2 31 - 1)).toNat }
      else { d with width := n.toNat }, cells, rest)
  | s => ({ d with width := sizeOf s }, cells, s.dropWhile Json.isDigit)

def precision (d : Directive) (cells : List Cell) (s : List Char) :
    Directive × List Cell × List Char :=
  match s with
  | '.' :: '*' :: rest =>
    let (c, cells) := next cells
    ({ d with precision := some (shortInt c).natAbs }, cells, rest)
  | '.' :: rest => ({ d with precision := some (sizeOf rest) }, cells, rest.dropWhile Json.isDigit)
  | s => (d, cells, s)

def withoutSize : List Char → List Char
  | 'l' :: 'l' :: rest => rest
  | 'l' :: rest => rest
  | s => s

def utf8Size (s : List Char) : Nat := s.foldl (fun size c => size + c.utf8Size) 0

def start (d : Directive) (s : List Char) : List Char :=
  match d.precision with
  | none => s
  | some n =>
    if d.full then s.take n
    else Text.ofBytes (((String.ofList s).toUTF8.toList.map UInt8.toNat).take n)

def placedText (d : Directive) (s : List Char) : List Char :=
  d.placed (if d.full then s.length else utf8Size s) s

def escaped (d : Directive) (quote : Char) (s : List Char) : List Char :=
  (start d s).flatMap fun c => if c == quote then [c, c] else [c]

def ordinalEnding (n : Nat) : List Char :=
  let last := n % 10
  if 4 ≤ last || n / 10 % 10 == 1 then ['t', 'h']
  else if last == 1 then ['s', 't']
  else if last == 2 then ['n', 'd']
  else if last == 3 then ['r', 'd']
  else ['t', 'h']

def signedChars (d : Directive) (isGrouped : Bool) (ending : Nat → List Char)
    (n : Int) : List Char :=
  d.wholeChars 10 false isGrouped (ending n.natAbs) [] (if n < 0 then some '-' else d.sign) n.natAbs

def unsignedChars (d : Directive) (base : Nat) (isUpper isGrouped : Bool)
    (mark : String) (n : Int) :
    List Char :=
  d.wholeChars base isUpper isGrouped [] mark.toList none (n % (pow2 64 : Nat)).toNat

def converted? (d : Directive) (kind : Char) (c : Cell) : Option (List Char) :=
  let sized := fun (s : List Char) => some (d.placed s.length s)
  let n := c.toInt
  let s := c.chars
  match kind with
  | 'd' | 'i' => sized (signedChars d true (fun _ => []) n)
  | 'r' => sized (signedChars d false ordinalEnding n)
  | 'u' => sized (unsignedChars d 10 false true "" n)
  | 'o' => sized (unsignedChars d 8 false false "0" n)
  | 'x' => sized (unsignedChars d 16 false false "0x" n)
  | 'X' => sized (unsignedChars d 16 true false "0X" n)
  | 'p' => sized (unsignedChars d 16 true false "0x" n)
  | 'f' => sized (d.realChars .fixed false c.toReal)
  | 'e' => sized (d.realChars .scientific false c.toReal)
  | 'E' => sized (d.realChars .scientific true c.toReal)
  | 'g' => sized (d.realChars .general false c.toReal)
  | 'G' => sized (d.realChars .general true c.toReal)
  | 's' | 'z' => some (placedText d (start d s))
  | 'q' => some (placedText d (escaped d '\'' (if c.isNull then "(NULL)".toList else s)))
  | 'w' => some (placedText d (escaped d '"' (if c.isNull then "(NULL)".toList else s)))
  | 'Q' =>
    some (placedText d (if c.isNull then start d "NULL".toList
      else '\'' :: escaped d '\'' s ++ ['\'']))
  | 'c' =>
    let copies := List.replicate (max 1 (d.precision.getD 1)) (s.headD '\x00')
    some (d.placed copies.length copies)
  | _ => none

/-- The directive that starts a text after its percent sign: what it writes, the cells that are
left, and what follows; or nothing if there is none. -/
def directive? (cells : List Cell) (s : List Char) :
    Except Fault (Option (List Char × List Cell × List Char)) :=
  let (d, rest) := flags {} s
  let (d, cells, rest) := width d cells rest
  let (d, cells, rest) := precision d cells rest
  match withoutSize rest with
  | [] => .ok none
  | kind :: after =>
    if greatestWidth < d.width || greatestWidth < d.precision.getD 0 then .error tooBig
    else if kind == '%' then .ok (some (d.placed 1 ['%'], cells, after))
    else if kind == 'n' then .ok (some ([], cells, after))
    else
      let (c, left) := next cells
      .ok ((converted? d kind c).map fun written => (written, left, after))

def chars : Nat → List Cell → List Char → Except Fault (List Char)
  | 0, _, _ => .ok []
  | _, _, [] => .ok []
  | _, _, ['%'] => .ok ['%']
  | fuel + 1, cells, '%' :: rest => do
    match ← directive? cells rest with
    | some (written, cells, after) => return written ++ (← chars fuel cells after)
    | none => return []
  | fuel + 1, cells, c :: rest => do
    return c :: (← chars fuel cells rest)

def isSilent (cells : List Cell) : List Char → Bool
  | [] => true
  | '%' :: c :: rest =>
    match directive? cells (c :: rest) with
    | .ok none => true
    | _ => false
  | _ => false

def line : List Cell → Except Fault Cell
  | [] | .null :: _ => .ok .null
  | pattern :: cells =>
    let s := pattern.chars
    if isSilent cells s then .ok .null
    else (chars (s.length + 1) cells s).map fun written => .text (String.ofList written)

end SchemaMigration.Sqlite.Format
