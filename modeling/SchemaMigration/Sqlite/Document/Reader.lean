import SchemaMigration.Sqlite.Document

namespace SchemaMigration.Sqlite.Document

structure Reading (α : Type) where
  found : α
  isStandard : Bool
  rest : List Char

namespace Reading

def map {α β : Type} (f : α → β) (r : Reading α) : Reading β := ⟨f r.found, r.isStandard, r.rest⟩

def behind {α : Type} (isStandard : Bool) (r : Reading α) : Reading α :=
  { r with isStandard := isStandard && r.isStandard }

end Reading

def isWideBlank (c : Char) : Bool :=
  ['\x0b', '\x0c', '\u00a0', '\ufeff', '\u1680', '\u2028', '\u2029', '\u202f', '\u205f',
    '\u3000'].contains c || ('\u2000' ≤ c && c ≤ '\u200a')

def pastComment? : List Char → Option (List Char)
  | '*' :: '/' :: rest => some rest
  | _ :: rest => pastComment? rest
  | [] => none

def wideBlank? : List Char → Option (List Char)
  | '/' :: '/' :: rest =>
    some ((rest.dropWhile fun c => !(c == '\r' || Lettering.isLineEnd c)).drop 1)
  | '/' :: '*' :: rest => pastComment? rest
  | c :: rest => if isWideBlank c then some rest else none
  | [] => none

def skip : Nat → List Char → Reading Unit
  | 0, s => ⟨(), true, s⟩
  | fuel + 1, s =>
    let s := Json.skipSpace s
    match wideBlank? s with
    | some rest => (skip fuel rest).behind false
    | none => ⟨(), true, s⟩

def skipped (s : List Char) : Reading Unit := skip (s.length + 1) s

def areHex (count : Nat) (s : List Char) : Bool :=
  let digits := s.take count
  digits.length == count && digits.all fun c => (Json.hexValue? c).isSome

def escape? (s : List Char) : Option (Nat × Bool) :=
  match s with
  | 'u' :: rest => if areHex 4 rest then some (1, true) else none
  | 'x' :: rest => if areHex 2 rest then some (1, false) else none
  | '\r' :: '\n' :: _ => some (2, false)
  | c :: _ =>
    if ['"', '\\', '/', 'b', 'f', 'n', 'r', 't'].contains c then some (1, true)
    else if ['\'', '0', 'v', '\r'].contains c || Lettering.isLineEnd c then some (1, false)
    else none
  | [] => none

def untilQuote? (quote : Char) : Nat → List Char → Option (Reading (List Char))
  | 0, _ | _, [] => none
  | fuel + 1, c :: rest =>
    if c == quote then some ⟨[], true, rest⟩
    else if c == '\x00' then none
    else if c == '\\' then do
      let (size, isStandard) ← escape? rest
      let more ← untilQuote? quote fuel (rest.drop size)
      some ((more.map fun s => c :: rest.take size ++ s).behind isStandard)
    else do
      let more ← untilQuote? quote fuel rest
      some ((more.map (c :: ·)).behind (0x20 ≤ c.toNat))

def text? (s : List Char) : Option (Reading Lettering) :=
  match s with
  | '"' :: rest => (untilQuote? '"' (rest.length + 1) rest).map (·.map .escaped)
  | '\'' :: rest =>
    (untilQuote? '\'' (rest.length + 1) rest).map fun r => (r.map .escaped).behind false
  | _ => none

def startsKey (c : Char) : Bool := c.isAlpha || c == '_' || c == '$' || 0x80 ≤ c.toNat

def bareKey : Nat → List Char → List Char
  | 0, _ | _, [] => []
  | fuel + 1, c :: rest =>
    if (startsKey c || Json.isDigit c) && !isWideBlank c then c :: bareKey fuel rest
    else if c == '\\' && rest.head? == some 'u' && areHex 4 (rest.drop 1) then
      c :: bareKey fuel rest
    else []

def exponent? (s : List Char) : Option (List Char × List Char) :=
  match s with
  | e :: rest =>
    if e == 'e' || e == 'E' then
      let sign := rest.takeWhile fun c => c == '+' || c == '-'
      let digits := (rest.drop sign.length).takeWhile Json.isDigit
      if digits.isEmpty || 1 < sign.length then none
      else some (e :: sign ++ digits, rest.drop (sign.length + digits.length))
    else some ([], s)
  | [] => some ([], [])

def magnitude? (s : List Char) : Option (Reading (List Char)) :=
  match s with
  | '0' :: x :: d :: rest =>
    if (x == 'x' || x == 'X') && (Json.hexValue? d).isSome then
      let digits := (d :: rest).takeWhile fun c => (Json.hexValue? c).isSome
      some ⟨'0' :: x :: digits, false, (d :: rest).drop digits.length⟩
    else if Json.isDigit x then none
    else plain? s
  | '0' :: x :: _ => if Json.isDigit x then none else plain? s
  | _ => plain? s
where
  /-- Digits with a point and an exponent; a digit stands on one side of the point at least. -/
  plain? (s : List Char) : Option (Reading (List Char)) := do
    let ones := s.takeWhile Json.isDigit
    let rest := s.drop ones.length
    let (point, places, rest) := match rest with
      | '.' :: more => (['.'], more.takeWhile Json.isDigit, more.dropWhile Json.isDigit)
      | _ => ([], [], rest)
    if ones.isEmpty && places.isEmpty then none
    else do
      let (power, rest) ← exponent? rest
      if (rest.head?.map (· == '.')).getD false then none
      else
        some ⟨ones ++ point ++ places ++ power,
          !ones.isEmpty && (point.isEmpty || !places.isEmpty), rest⟩

def numberWords : List (String × Document) := [
  ("infinity", .number "9e999".toList), ("inf", .number "9e999".toList), ("nan", .null),
  ("qnan", .null), ("snan", .null)]

def word? (word : String) (s : List Char) : Option (List Char) :=
  let head := String.ofList (s.take word.length)
  let rest := s.drop word.length
  if head.toLower == word && !(rest.head?.map Char.isAlphanum).getD false then some rest else none

def number? (s : List Char) : Option (Reading Document) :=
  let (sign, body) := match s with
    | '-' :: rest => (['-'], rest)
    | '+' :: rest => (['+'], rest)
    | s => ([], s)
  let kept := sign.filter (· == '-')
  let named := if sign.isEmpty then none else
    ["infinity", "inf"].findSome? fun w =>
      if (String.ofList (body.take w.length)).toLower == w then some (body.drop w.length) else none
  match named with
  | some rest => some ⟨.number (kept ++ "9e999".toList), false, rest⟩
  | none => (magnitude? body).map fun r =>
    (r.map fun written => .number (kept ++ written)).behind (sign == kept)

def standardWords : List (String × Document) :=
  [("null", .null), ("true", .bool true), ("false", .bool false)]

def scalar? (s : List Char) : Option (Reading Document) :=
  let standard := standardWords.findSome? fun (w, d) =>
    let rest := s.drop w.length
    if w.toList.isPrefixOf s && !(rest.head?.map Char.isAlphanum).getD false then
      some ⟨d, true, rest⟩
    else none
  let named := numberWords.findSome? fun (w, d) => (word? w s).map fun rest => ⟨d, false, rest⟩
  match standard, named with
  | some r, _ => some r
  | _, some r => some r
  | none, none => ((text? s).map (·.map .text)).orElse fun _ => number? s

def key? (s : List Char) : Option (Reading Lettering) :=
  match text? s with
  | some r => some r
  | none =>
    let key := bareKey (s.length + 1) s
    if key.isEmpty || (key.head?.map Json.isDigit).getD false || (scalar? s).isSome then none
    else some ⟨.escaped key, false, s.drop key.length⟩

def greatestDepth : Nat := 1000

mutual
def value? : Nat → Nat → List Char → Option (Reading Document)
  | 0, _, _ => none
  | fuel + 1, depth, s =>
    let start := skipped s
    let found : Option (Reading Document) := match start.rest, depth with
      | '[' :: rest, depth + 1 => (items? fuel depth true rest).map (Reading.map .list)
      | '{' :: rest, depth + 1 => (fields? fuel depth true rest).map (Reading.map .object)
      | rest, _ => scalar? rest
    found.map (Reading.behind start.isStandard)

def items? : Nat → Nat → Bool → List Char → Option (Reading (List Document))
  | 0, _, _, _ => none
  | fuel + 1, depth, isFirst, s =>
    let start := skipped s
    match start.rest with
    | ']' :: rest => some ⟨[], start.isStandard && isFirst, rest⟩
    | _ => do
      let d ← value? fuel depth s
      let gap := skipped d.rest
      match gap.rest with
      | ']' :: rest => some ⟨[d.found], d.isStandard && gap.isStandard, rest⟩
      | ',' :: rest =>
        let more ← items? fuel depth false rest
        some ((more.map (d.found :: ·)).behind (d.isStandard && gap.isStandard))
      | _ => none

def fields? : Nat → Nat → Bool → List Char → Option (Reading (List (Lettering × Document)))
  | 0, _, _, _ => none
  | fuel + 1, depth, isFirst, s =>
    let start := skipped s
    match start.rest with
    | '}' :: rest => some ⟨[], start.isStandard && isFirst, rest⟩
    | s => do
      let k ← key? s
      let gap := skipped k.rest
      let rest ← match gap.rest with
        | ':' :: rest => some rest
        | _ => none
      let d ← value? fuel depth rest
      let after := skipped d.rest
      let isStandard := start.isStandard && k.isStandard && gap.isStandard && d.isStandard &&
        after.isStandard
      match after.rest with
      | '}' :: rest => some ⟨[(k.found, d.found)], isStandard, rest⟩
      | ',' :: rest =>
        let more ← fields? fuel depth false rest
        some ((more.map ((k.found, d.found) :: ·)).behind isStandard)
      | _ => none
end

def read? (s : String) : Option (Reading Document) := do
  let r ← value? (2 * s.length + 2) greatestDepth s.toList
  let gap := skipped r.rest
  if gap.rest.isEmpty then some (r.behind gap.isStandard) else none

end SchemaMigration.Sqlite.Document
