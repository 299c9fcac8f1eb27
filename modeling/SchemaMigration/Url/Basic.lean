import SchemaMigration.Number.Reading
import SchemaMigration.Text.Percent
import SchemaMigration.Text.Split
import SchemaMigration.Text.WordTable

namespace SchemaMigration

structure Url where
  name : String
  username : Option String := none
  password : Option String := none
  host : Option String := none
  hostNumber : Option Int := none
  database : Option String := none
  query : List (String × List String) := []
  deriving DecidableEq, Repr

namespace Url

def isNameChar (c : Char) : Bool := Text.isWordChar c || c == '+'

/-- The user in front of an at sign, and the password after a colon; and the rest. Without a
password the last of several signs counts. -/
def user (s : List Char) : Option (List Char) × Option (List Char) × List Char :=
  let name := s.takeWhile fun c => c != ':' && c != '/'
  match s.drop name.length with
  | ':' :: secret =>
    if secret.contains '@' then
      (some name, some (secret.takeWhile (· != '@')), (secret.dropWhile (· != '@')).drop 1)
    else withoutPassword name
  | _ => withoutPassword name
where
  withoutPassword (name : List Char) : Option (List Char) × Option (List Char) × List Char :=
    if name.contains '@' then
      let after := (name.reverse.takeWhile (· != '@')).length
      let length := name.length - after - 1
      (some (s.take length), none, s.drop (length + 1))
    else (none, none, s)

def hostPart (s : List Char) : Option (List Char) × List Char :=
  let run := (s.drop 1).takeWhile fun c => c != '/' && c != '?'
  let inner := (run.reverse.dropWhile (· != ']')).drop 1
  if s.head? == some '[' && !inner.isEmpty then
    (some inner.reverse, s.drop (inner.length + 2))
  else
    let host := s.takeWhile fun c => c != '/' && c != ':' && c != '?'
    (if host.isEmpty then none else some host, s.drop host.length)

def marked (mark : Char) (isEnd : Char → Bool) (s : List Char) : Option (List Char) × List Char :=
  match s with
  | c :: rest =>
    if c == mark then (some (rest.takeWhile fun c => !isEnd c), rest.dropWhile fun c => !isEnd c)
    else (none, s)
  | [] => (none, [])

def queryText (s : List Char) : String :=
  String.ofList (Text.unescaped (s.map fun c => if c == '+' then ' ' else c))

def option? (s : List Char) : Option (String × String) :=
  match s.dropWhile (· != '=') with
  | _ :: c :: rest => some (queryText (s.takeWhile (· != '=')), queryText (c :: rest))
  | _ => none

def addOption (query : List (String × List String)) (o : String × String) :
    List (String × List String) :=
  if query.any fun (k, _) => k == o.1 then
    query.map fun (k, vs) => if k == o.1 then (k, vs ++ [o.2]) else (k, vs)
  else query ++ [(o.1, [o.2])]

def queryOf (s : List Char) : List (String × List String) :=
  ((Text.splitOn '&' s).filterMap option?).foldl addOption []

inductive ReadError
  | unreadable
  | badNumber (e : NumberError)
  deriving DecidableEq, Repr

def text (s : List Char) : String := String.ofList s

def unescaped (s : List Char) : String := String.ofList (Text.unescaped s)

def ofText (url : String) : Except ReadError Url :=
  let name := url.toList.takeWhile isNameChar
  match name.isEmpty, url.toList.drop name.length with
  | false, ':' :: '/' :: '/' :: rest =>
    let (username, password, rest) := user rest
    let (host, rest) := hostPart rest
    let (number, rest) := marked ':' (fun c => c == '/' || c == '?') rest
    let (database, rest) := marked '/' (· == '?') rest
    let (query, _) := marked '?' (· == '\n') rest
    do
      let number ←
        match number with
        | none => .ok none
        | some digits => ((Number.ofBase 10 (text digits)).map some).mapError .badNumber
      .ok {
        name := text name
        username := username.map unescaped
        password := password.map unescaped
        host := host.map text
        hostNumber := number
        database := database.map unescaped
        query := (query.map queryOf).getD [] }
  | _, _ => .error .unreadable

def part {α : Type} (p : Option α) (write : α → List Char) : List Char := (p.map write).getD []

def shown (u : Url) : String :=
  let user := part u.username fun name =>
    Text.escaped [' ', '+'] name.toList ++ part u.password (fun _ => ":***".toList) ++ ['@']
  let host := part u.host fun host =>
    if host.toList.contains ':' then '[' :: host.toList ++ [']'] else host.toList
  let number := part u.hostNumber fun n => ':' :: (toString n).toList
  let database := part u.database fun d => '/' :: Text.escaped [' ', '+', '/'] d.toList
  let sorted := u.query.mergeSort fun a b => decide (a.1 ≤ b.1)
  let options := sorted.flatMap fun (k, vs) => vs.map fun v =>
    Text.escapedInQuery k.toList ++ '=' :: Text.escapedInQuery v.toList
  let query := if options.isEmpty then [] else '?' :: Text.joinOn '&' options
  text (u.name.toList ++ "://".toList ++ user ++ host ++ number ++ database ++ query)

end Url

end SchemaMigration
