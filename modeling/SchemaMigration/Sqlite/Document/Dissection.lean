import SchemaMigration.Sqlite.Document.Function

namespace SchemaMigration.Sqlite.Document

def headSize (size : Nat) : Nat :=
  if size ≤ 11 then 1 else if size ≤ 0xFF then 2 else if size ≤ 0xFFFF then 3 else 5

def letteringSize : Lettering → Nat
  | .plain s | .escaped s => headSize (Format.utf8Size s) + Format.utf8Size s

mutual
def bodySize : Document → Nat
  | .null | .bool _ => 0
  | .number written => written.length
  | .text (.plain s) | .text (.escaped s) => Format.utf8Size s
  | .list items => itemSize items
  | .object fields => fieldSize fields

def itemSize : List Document → Nat
  | [] => 0
  | d :: rest => headSize (bodySize d) + bodySize d + itemSize rest

def fieldSize : List (Lettering × Document) → Nat
  | [] => 0
  | (k, d) :: rest => letteringSize k + headSize (bodySize d) + bodySize d + fieldSize rest
end

def size (d : Document) : Nat := headSize (bodySize d) + bodySize d

structure Located where
  key : Cell
  part : Document
  place : Nat
  start : Nat

/-- Parts one after the other, from a place on; for each its key, how long its name is, and the
part. -/
def located (place : Nat) : List (Cell × Nat × Document) → List Located
  | [] => []
  | (key, name, d) :: rest => ⟨key, d, place, place + name⟩ :: located (place + name + d.size) rest

def locatedParts (start : Nat) (d : Document) : List Located :=
  located (start + headSize (bodySize d)) (match d with
    | .list items => items.zipIdx.map fun (d, n) => (.int n, 0, d)
    | .object fields => fields.map fun (k, d) => (.text (String.ofList k.chars), letteringSize k, d)
    | _ => [])

def locatedAt : Nat → Located → List Char → Except PathFault Located
  | 0, _, _ => .error .missing
  | _, l, [] => .ok l
  | fuel + 1, l, path => do
    let (step, n) ← l.part.step? path
    match (locatedParts l.start l.part)[n]?, step with
    | some next, .key _ rest | some next, .place _ rest => locatedAt fuel next rest
    | _, _ => .error .missing

def whole (d : Document) : Located := ⟨.null, d, 0, 0⟩

def locatedAt? (d : Document) (path : List Char) : Option Located :=
  (locatedAt (path.length + 1) d.whole path).toOption

def stepChars : Cell → List Char
  | .int n => '[' :: (toString n).toList ++ [']']
  | c =>
    let s := c.toText.toList
    if s.isEmpty || !s.all Char.isAlphanum then '.' :: '"' :: s ++ ['"'] else '.' :: s

/-- The row of a part: what leads to it, the part, its place, that of what it is in, and the paths
to both. -/
def partRow (l : Located) (key parent : Cell) (full outer : List Char) : List Cell :=
  [key, l.part.toCell, .text l.part.kindName, if l.part.hasParts then .null else l.part.toCell,
    .int l.place, parent, .text (String.ofList full), .text (String.ofList outer)]

def partRows (isDeep : Bool) : Nat → Located → List Char → List (List Cell)
  | 0, _, _ => []
  | fuel + 1, l, path =>
    (locatedParts l.start l.part).flatMap fun p =>
      let full := path ++ stepChars p.key
      partRow p p.key (if isDeep then .int l.place else .null) full path ::
        (if isDeep then partRows isDeep fuel p full else [])

/-- How much of a path leads to what the part at its end is the first part of; the mark of the whole
if the path leads to no first part. -/
def outerLength (d : Document) (l : Located) (path : List Char) : Nat → Nat
  | 0 | 1 => 1
  | n + 2 =>
    let isStep := path[n + 1]? == some '[' || path[n + 1]? == some '.'
    let outer := if isStep then d.locatedAt? ((path.take (n + 1)).drop 1) else none
    if outer.any fun o => o.start + headSize (bodySize o.part) == l.place then n + 1
    else outerLength d l path (n + 1)

def keyOfSteps : List Char → Cell
  | '[' :: s => .int (Json.digitsValue (s.takeWhile Json.isDigit))
  | '.' :: '"' :: s => .text (String.ofList s.dropLast)
  | _ :: s => .text (String.ofList s)
  | [] => .null

/-- The rows of the part at the end of a path: of its parts, or of all parts with itself in front.
What has no parts is a row itself. -/
def rowsAt (isDeep : Bool) (d : Document) (l : Located) (path : List Char) : List (List Cell) :=
  let outer := if isDeep then outerLength d l path path.length else path.length
  let key := if path.length ≤ 1 then .null else keyOfSteps (path.drop outer)
  let own := partRow l key .null path (path.take outer)
  let inner := partRows isDeep (greatestDepth + 1) l path
  if isDeep || !l.part.hasParts then own :: inner else inner

def rowsOf (isDeep : Bool) (cells : List Cell) : Except Fault (List (List Cell)) := do
  match ← ofText (cells.headD .null), cells.drop 1 with
  | none, _ => return []
  | some d, [] => return rowsAt isDeep d d.whole ['$']
  | some d, p :: _ =>
    if p.isNull then return []
    else
      let _ ← d.partAt p
      return ((d.locatedAt? (p.chars.drop 1)).map fun l => rowsAt isDeep d l p.chars).getD []

end SchemaMigration.Sqlite.Document
