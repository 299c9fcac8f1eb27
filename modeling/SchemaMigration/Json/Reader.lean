import SchemaMigration.Value.Basic

namespace SchemaMigration.Json

inductive ReadError
  | malformed
  | long (digits : Nat)
  | deep
  deriving DecidableEq, Repr

def greatestLength : Nat := 4300

def greatestDepth : Nat := 990

def isSpace (c : Char) : Bool := c == ' ' || c == '\t' || c == '\n' || c == '\r'

def skipSpace (s : List Char) : List Char := s.dropWhile isSpace

def hexValue? (c : Char) : Option Nat :=
  if '0' ≤ c && c ≤ '9' then some (c.toNat - 0x30)
  else if 'a' ≤ c && c ≤ 'f' then some (c.toNat - 0x57)
  else if 'A' ≤ c && c ≤ 'F' then some (c.toNat - 0x37)
  else none

def unit? : List Char → Option (Nat × List Char)
  | a :: b :: c :: d :: rest => do
    let a ← hexValue? a
    let b ← hexValue? b
    let c ← hexValue? c
    let d ← hexValue? d
    some (((a * 16 + b) * 16 + c) * 16 + d, rest)
  | _ => none

def isHighSurrogate (n : Nat) : Bool := 0xD800 ≤ n && n ≤ 0xDBFF

def isLowSurrogate (n : Nat) : Bool := 0xDC00 ≤ n && n ≤ 0xDFFF

def unitChar (n : Nat) : Char :=
  if isHighSurrogate n || isLowSurrogate n then '\uFFFD' else Char.ofNat n

def simpleEscape? : Char → Option Char
  | '"' => some '"'
  | '\\' => some '\\'
  | '/' => some '/'
  | 'b' => some '\x08'
  | 'f' => some '\x0c'
  | 'n' => some '\n'
  | 'r' => some '\r'
  | 't' => some '\t'
  | _ => none

def escapedCode? (s : List Char) : Option (Char × List Char) := do
  let (high, rest) ← unit? s
  if isHighSurrogate high then
    match rest with
    | '\\' :: 'u' :: after =>
      match unit? after with
      | some (low, rest') =>
        if isLowSurrogate low then
          some (Char.ofNat (0x10000 + (high - 0xD800) * 0x400 + (low - 0xDC00)), rest')
        else some (unitChar high, rest)
      | none => some (unitChar high, rest)
    | _ => some (unitChar high, rest)
  else some (unitChar high, rest)

def string? : Nat → List Char → Option (List Char × List Char)
  | 0, _ => none
  | _, [] => none
  | fuel + 1, c :: rest =>
    if c == '"' then some ([], rest)
    else if c.toNat < 0x20 then none
    else if c == '\\' then
      match rest with
      | 'u' :: after => do
        let (decoded, rest) ← escapedCode? after
        let (more, rest) ← string? fuel rest
        some (decoded :: more, rest)
      | e :: after => do
        let decoded ← simpleEscape? e
        let (more, rest) ← string? fuel after
        some (decoded :: more, rest)
      | [] => none
    else do
      let (more, rest) ← string? fuel rest
      some (c :: more, rest)

def isDigit (c : Char) : Bool := '0' ≤ c && c ≤ '9'

def digitsValue (digits : List Char) : Nat :=
  digits.foldl (fun n c => n * 10 + (c.toNat - 0x30)) 0

def wholePart? : List Char → Option (List Char × List Char)
  | '0' :: rest => some (['0'], rest)
  | s =>
    if (s.takeWhile isDigit).isEmpty then none else some (s.takeWhile isDigit, s.dropWhile isDigit)

def fractionPart : List Char → List Char × List Char
  | '.' :: rest =>
    if (rest.takeWhile isDigit).isEmpty then ([], '.' :: rest)
    else (rest.takeWhile isDigit, rest.dropWhile isDigit)
  | s => ([], s)

def exponentPart (s : List Char) : Option Int × List Char :=
  match s with
  | e :: rest =>
    if e == 'e' || e == 'E' then
      let (negative, digits) :=
        match rest with
        | '-' :: more => (true, more)
        | '+' :: more => (false, more)
        | _ => (false, rest)
      if (digits.takeWhile isDigit).isEmpty then (none, s)
      else
        let n : Int := digitsValue (digits.takeWhile isDigit)
        (some (if negative then -n else n), digits.dropWhile isDigit)
    else (none, s)
  | [] => (none, [])

def orMalformed {α : Type} (result : Option α) : Except ReadError α :=
  match result with
  | some a => .ok a
  | none => .error .malformed

def number (negative : Bool) (s : List Char) : Except ReadError (Value × List Char) := do
  let (whole, rest) ← orMalformed (wholePart? s)
  let (fraction, rest) := fractionPart rest
  let (exponent, rest) := exponentPart rest
  if fraction.isEmpty && exponent.isNone then
    if greatestLength < whole.length then .error (.long whole.length)
    else
      let n : Int := digitsValue whole
      .ok (.int (if negative then -n else n), rest)
  else
    .ok (.float (Binary64.ofDecimal negative (digitsValue (whole ++ fraction))
      (exponent.getD 0 - fraction.length)), rest)

def word? (word : String) (s : List Char) : Option (List Char) :=
  if word.toList.isPrefixOf s then some (s.drop word.length) else none

def words : List (String × Value) := [
  ("null", .null), ("true", .bool true), ("false", .bool false), ("NaN", .float .nan),
  ("Infinity", .float (.infinite false)), ("-Infinity", .float (.infinite true))]

def scalar (s : List Char) : Except ReadError (Value × List Char) :=
  match words.findSome? fun (word, v) => (word? word s).map fun rest => (v, rest) with
  | some found => .ok found
  | none =>
    match s with
    | '-' :: rest => number true rest
    | _ => number false s

def text (s : List Char) : Except ReadError (String × List Char) := do
  let (t, rest) ← orMalformed (string? (s.length + 1) s)
  .ok (String.ofList t, rest)

mutual
def value : Nat → Nat → List Char → Except ReadError (Value × List Char)
  | 0, _, _ => .error .malformed
  | fuel + 1, depth, s =>
    match s, depth with
    | '"' :: rest, _ => do
      let (t, rest) ← text rest
      .ok (.text t, rest)
    | '[' :: _, 0 => .error .deep
    | '{' :: _, 0 => .error .deep
    | '[' :: rest, depth + 1 =>
      match skipSpace rest with
      | ']' :: after => .ok (.list [], after)
      | rest => do
        let (items, rest) ← items fuel depth rest
        .ok (.list items, rest)
    | '{' :: rest, depth + 1 =>
      match skipSpace rest with
      | '}' :: after => .ok (.object [], after)
      | rest => do
        let (fields, rest) ← fields fuel depth [] rest
        .ok (.object fields, rest)
    | _, _ => scalar s

def items : Nat → Nat → List Char → Except ReadError (List Value × List Char)
  | 0, _, _ => .error .malformed
  | fuel + 1, depth, s => do
    let (v, rest) ← value fuel depth s
    match skipSpace rest with
    | ']' :: after => .ok ([v], after)
    | ',' :: after =>
      let (more, rest) ← items fuel depth (skipSpace after)
      .ok (v :: more, rest)
    | _ => .error .malformed

def fields : Nat → Nat → List (String × Value) → List Char →
    Except ReadError (List (String × Value) × List Char)
  | 0, _, _, _ => .error .malformed
  | fuel + 1, depth, seen, s =>
    match s with
    | '"' :: rest => do
      let (k, rest) ← text rest
      match skipSpace rest with
      | ':' :: after =>
        let (v, rest) ← value fuel depth (skipSpace after)
        let seen := putPair k v seen
        match skipSpace rest with
        | '}' :: after => .ok (seen, after)
        | ',' :: after => fields fuel depth seen (skipSpace after)
        | _ => .error .malformed
      | _ => .error .malformed
    | _ => .error .malformed
end

def read (s : String) : Except ReadError Value := do
  let (v, rest) ← value (s.length + 1) greatestDepth (skipSpace s.toList)
  if (skipSpace rest).isEmpty then .ok v else .error .malformed

def read? (s : String) : Option Value := (read s).toOption

end SchemaMigration.Json
