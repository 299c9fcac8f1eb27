import SchemaMigration.Sqlite.Cell
import SchemaMigration.Sqlite.Fault

namespace SchemaMigration.Sqlite.Cell

def sameLetter (a b : Char) : Bool := a.toLower == b.toLower

def fits (escape : Option Char) : Nat → List Char → List Char → Bool
  | 0, _, _ => false
  | _ + 1, [], s => s.isEmpty
  | fuel + 1, p :: ps, s =>
    if some p == escape then
      match ps, s with
      | q :: qs, c :: rest => sameLetter q c && fits escape fuel qs rest
      | _, _ => false
    else if p == '%' then
      fits escape fuel ps s ||
        match s with
        | [] => false
        | _ :: rest => fits escape fuel (p :: ps) rest
    else
      match s with
      | [] => false
      | c :: rest => (p == '_' || sameLetter p c) && fits escape fuel ps rest

/-- Whether a character is in the set that starts a pattern, after the bracket; then what follows
the set. The first character belongs to the set even if it is a bracket. -/
def inSet (c : Char) (found isFirst : Bool) : List Char → Bool × List Char
  | [] => (false, [])
  | ']' :: rest => if isFirst then inSet c (found || c == ']') false rest else (found, rest)
  | a :: '-' :: b :: rest =>
    if b == ']' then inSet c (found || c == a) false ('-' :: b :: rest)
    else inSet c (found || c == a || (a ≤ c && c ≤ b)) false rest
  | a :: rest => inSet c (found || c == a) false rest

def fitsGlob : Nat → List Char → List Char → Bool
  | 0, _, _ => false
  | _ + 1, [], s => s.isEmpty
  | fuel + 1, '*' :: ps, s =>
    fitsGlob fuel ps s ||
      match s with
      | [] => false
      | _ :: rest => fitsGlob fuel ('*' :: ps) rest
  | _ + 1, _ :: _, [] => false
  | fuel + 1, '?' :: ps, _ :: rest => fitsGlob fuel ps rest
  | fuel + 1, '[' :: '^' :: ps, c :: rest =>
    let (found, ps) := inSet c false true ps
    !found && fitsGlob fuel ps rest
  | fuel + 1, '[' :: ps, c :: rest =>
    let (found, ps) := inSet c false true ps
    found && fitsGlob fuel ps rest
  | fuel + 1, p :: ps, c :: rest => p == c && fitsGlob fuel ps rest

def escapeOf (c : Cell) : Except Fault Char :=
  match c.chars with
  | [e] => .ok e
  | _ => .error (.late "ESCAPE expression must be a single character")

def like (kind : String) (t pattern : Cell) (escape : Option Cell) : Except Fault Cell :=
  let s := t.chars
  let p := pattern.chars
  let fuel := (s.length + 2) * (p.length + 2)
  if kind == "REGEXP" || kind == "MATCH" then .error (.operational ("no such function: " ++ kind))
  else if escape == some .null then .ok .null
  else do
    let e ← escape.mapM escapeOf
    if t.isNull || pattern.isNull then return .null
    else if kind == "LIKE" then return .ofBool (fits e fuel p s)
    else if escape.isNone then return .ofBool (fitsGlob fuel p s)
    else .error (.operational "wrong number of arguments to function")

end SchemaMigration.Sqlite.Cell
