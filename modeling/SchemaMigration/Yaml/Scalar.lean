import SchemaMigration.Datum
import SchemaMigration.Text.Base64
import SchemaMigration.Text.Case
import SchemaMigration.Yaml.Cursor
import SchemaMigration.Yaml.Tag

namespace SchemaMigration.Yaml

def truthWords : List (String × Bool) := [
  ("yes", true), ("no", false), ("true", true), ("false", false), ("on", true), ("off", false)]

def truth (text : String) : Except Fault Datum :=
  let word := Text.lower text
  match truthWords.lookup word with
  | some b => .ok (.plain (.bool b))
  | none => .error (.noTruth word)

def ungrouped (s : List Char) : List Char := s.filter (· != '_')

def signedPart (s : List Char) : Except Fault (Bool × List Char) :=
  if s.isEmpty then .error .noDigit else .ok (Number.sign s)

def wholeIn (base : Nat) (s : List Char) : Except Fault Int :=
  (Number.ofBase base (String.ofList s)).mapError .number

def places {α : Type} (read : List Char → Except Fault α) (s : List Char) : Except Fault (List α) :=
  ((Text.splitOn ':' s).mapM read).map List.reverse

def whole (text : String) : Except Fault Int := do
  let (negative, body) ← signedPart (ungrouped text.toList)
  let n ←
    match body with
    | [] => .error .noDigit
    | ['0'] => .ok 0
    | '0' :: 'b' :: digits => wholeIn 2 digits
    | '0' :: 'x' :: digits => wholeIn 16 digits
    | '0' :: _ => wholeIn 8 body
    | _ =>
      if body.contains ':' then
        (places (wholeIn 10) body).map fun ds => ds.foldr (fun d n => n * 60 + d) 0
      else wholeIn 10 body
  .ok (if negative then -n else n)

def binaryOf (s : List Char) : Except Fault Binary64 :=
  (Number.ofBinary (String.ofList s)).mapError .number

def weight (place : Nat) : Except Fault Binary64 :=
  match Binary64.ofInt (Nat.repeat (· * 60) place 1) with
  | .infinite _ => .error .large
  | w => .ok w

def sixtieths (place : Nat) (sum : Binary64) : List Binary64 → Except Fault Binary64
  | [] => .ok sum
  | d :: rest => do
    let w ← weight place
    sixtieths (place + 1) (sum.add (d.mul w)) rest

def pointed (text : String) : Except Fault Binary64 := do
  let lowered := (Text.lower (String.ofList (ungrouped text.toList))).toList
  let (negative, body) ← signedPart lowered
  let x ←
    if body == ".inf".toList then .ok (.infinite false)
    else if body == ".nan".toList then .ok .nan
    else if body.contains ':' then do
      let ds ← places binaryOf body
      sixtieths 0 (Binary64.zero false) ds
    else binaryOf body
  .ok (if negative then x.neg else x)

def bytes (text : String) : Except Fault Datum :=
  if text.toList.all (·.toNat < 0x80) then
    (orMalformed (Text.bytes64? 0 0 0 text.toList)).map .bytes
  else .error .malformed

def fractionMicros (digits : List Char) : Nat :=
  Json.digitsValue ((digits ++ List.replicate 6 '0').take 6)

def time (text : String) : Except Fault Datum :=
  match Tag.writtenDay? (Tag.withoutBreak text.toList) with
  | none => .error .noTime
  | some d =>
    (match d.time with
    | none => do
      Timestamp.checkDay d.year d.month d.day
      .ok (.day d.year d.month d.day)
    | some t => do
      let offset ←
        match t.offset with
        | none => .ok none
        | some minutes => (Timestamp.checkOffset (minutes * 60000000)).map some
      let t ← Timestamp.checked {
        year := d.year, month := d.month, day := d.day, hour := t.hour, minute := t.minute,
        second := t.second, micro := fractionMicros t.fraction, offset := offset }
      .ok (.moment t) : Except TimestampError Datum).mapError .time

def scalarDatum (tag : Tag) (text : String) : Except Fault Datum :=
  match tag with
  | .null => .ok .null
  | .bool => truth text
  | .int => (whole text).map fun n => .plain (.int n)
  | .float => (pointed text).map fun x => .plain (.float x)
  | .binary => bytes text
  | .timestamp => time text
  | .text => .ok (.text text)
  | _ => .error .malformed

end SchemaMigration.Yaml
