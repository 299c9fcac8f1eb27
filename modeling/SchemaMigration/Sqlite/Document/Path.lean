import SchemaMigration.Sqlite.Document.Reader

namespace SchemaMigration.Sqlite.Document

inductive PathFault
  | missing
  | malformed
  deriving DecidableEq, Repr

inductive Step
  | key (k : Lettering) (rest : List Char)
  | place (n : Nat) (rest : List Char)
  | fromEnd (n : Nat) (rest : List Char)

def pathKey? : List Char → Option (Lettering × List Char)
  | '"' :: s =>
    let key := s.takeWhile (· != '"')
    if key.length == s.length then none
    else some (if key.contains '\\' then .escaped key else .plain key, s.drop (key.length + 1))
  | s =>
    let key := s.takeWhile fun c => c != '.' && c != '['
    if key.isEmpty then none else some (.plain key, s.drop key.length)

def pathPlace? (s : List Char) : Option Step :=
  let digits := s.takeWhile Json.isDigit
  match digits, s.drop digits.length with
  | _ :: _, ']' :: rest => some (.place (Json.digitsValue digits) rest)
  | [], '#' :: ']' :: rest => some (.fromEnd 0 rest)
  | [], '#' :: '-' :: rest =>
    let digits := rest.takeWhile Json.isDigit
    match digits, rest.drop digits.length with
    | _ :: _, ']' :: rest => some (.fromEnd (Json.digitsValue digits) rest)
    | _, _ => none
  | _, _ => none

inductive Edit
  | remove
  | replace (d : Document)
  | insert (d : Document)
  | set (d : Document)

namespace Edit

def added? : Edit → Option Document
  | .insert d | .set d => some d
  | _ => none

def atEnd (e : Edit) (d : Document) : Option Document :=
  match e with
  | .remove => none
  | .insert _ => some d
  | .replace new | .set new => some new

end Edit

def putItem (items : List Document) (n : Nat) : Option Document → List Document
  | some d => items.set n d
  | none => items.eraseIdx n

def putField (fields : List (Lettering × Document)) (n : Nat) :
    Option Document → List (Lettering × Document)
  | some d => fields.modify n fun f => (f.1, d)
  | none => fields.eraseIdx n

/-- The first step of a path in a document: where it leads, if it is a part that is there, or can be
added. -/
def step? (d : Document) (path : List Char) : Except PathFault (Step × Nat) :=
  match path with
  | '.' :: s =>
    match pathKey? s with
    | none => .error .malformed
    | some (k, rest) =>
      match d with
      | .object fields =>
        .ok (.key k rest, (fields.findIdx? fun f => k.same f.1).getD fields.length)
      | _ => .error .missing
  | '[' :: s =>
    match d with
    | .list items =>
      match pathPlace? s with
      | some (.place n rest) =>
        if n ≤ items.length then .ok (.place n rest, n) else .error .missing
      | some (.fromEnd n rest) =>
        if n ≤ items.length then .ok (.place (items.length - n) rest, items.length - n)
        else .error .missing
      | _ => .error .malformed
    | _ => .error .missing
  | _ => .error .malformed

def followed : Nat → Document → List Char → Except PathFault Document
  | 0, _, _ => .error .missing
  | _, d, [] => .ok d
  | fuel + 1, d, path => do
    match ← step? d path, d with
    | (.key _ rest, n), .object fields =>
      match fields[n]? with
      | some f => followed fuel f.2 rest
      | none => .error .missing
    | (.place _ rest, n), .list items =>
      match items[n]? with
      | some item => followed fuel item rest
      | none => .error .missing
    | _, _ => .error .missing

/-- A document with the part at the end of a path changed; nothing if it is removed as a whole. -/
def edited (e : Edit) : Nat → Document → List Char → Except PathFault (Option Document)
  | 0, _, _ => .error .missing
  | _, d, [] => .ok (e.atEnd d)
  | fuel + 1, d, path => do
    /- What is added under the rest of a path, in lists and objects of its own. -/
    let added := fun (rest : List Char) =>
      match e.added?, rest with
      | none, _ => .error .missing
      | some d, [] => .ok (some d)
      | some _, '.' :: _ => edited e fuel (.object []) rest
      | some _, _ => edited e fuel (.list []) rest
    match ← step? d path, d with
    | (.key k rest, n), .object fields =>
      match fields[n]? with
      | some f => do
        let new ← edited e fuel f.2 rest
        return some (.object (putField fields n new))
      | none => do
        let new ← added rest
        return some (.object (fields ++ new.toList.map fun d => (k, d)))
    | (.place _ rest, n), .list items =>
      match items[n]? with
      | some item => do
        let new ← edited e fuel item rest
        return some (.list (putItem items n new))
      | none => do
        let new ← added rest
        return some (.list (items ++ new.toList))
    | _, _ => .error .missing

/-- A document with the fields of another one laid over it; null takes a field away. What is no
object takes the place of the whole. -/
def patched : Nat → Document → Document → Document
  | 0, d, _ => d
  | fuel + 1, d, .object changes =>
    let start := match d with
      | .object fields => fields
      | _ => []
    .object (changes.foldl (fun fields (k, change) =>
      match fields.findIdx? fun f => k.same f.1, change with
      | some n, .null => fields.eraseIdx n
      | none, .null => fields
      | some n, change => fields.modify n fun f => (f.1, patched fuel f.2 change)
      | none, .object more => fields ++ [(k, patched fuel .null (.object more))]
      | none, change => fields ++ [(k, change)]) start)
  | _ + 1, _, change => change

end SchemaMigration.Sqlite.Document
