import SchemaMigration.Change.Basic
import SchemaMigration.Timestamp.Reading

namespace SchemaMigration

inductive DeclarationError
  | missingField (name : String)
  | unknownChange (name : String)
  | unknownReaction (written : Value)
  | notPair (place length : Nat)
  | misfit (f : Misfit)
  | badTime (e : TimestampError)
  deriving Repr

def DeclarationError.message : DeclarationError → String
  | .missingField name => name
  | .unknownChange name =>
    "Unknown change type: " ++ name ++ ". Available: " ++ Text.join ", " Change.names
  | .unknownReaction written => written.shown ++ " is not a valid OnFailure"
  | .notPair place length =>
    "dictionary update sequence element #" ++ toString place ++ " has length " ++ toString length ++
      "; 2 is required"
  | .misfit f => f.message
  | .badTime e => e.message

namespace Declaration

def unfit : DeclarationError := .misfit .unfit

def fitting {α : Type} (result : Except Misfit α) : Except DeclarationError α :=
  result.mapError .misfit

def fields (v : Value) : Except DeclarationError (List (String × Value)) :=
  match v with
  | .object fields => .ok fields
  | _ => .error unfit

def needsFields (needed : List String) (fields : List (String × Value)) :
    Except DeclarationError Unit :=
  if needed.all fun name => (fields.lookup name).isSome then .ok () else .error unfit

def onlyFields (known : List String) (fields : List (String × Value)) :
    Except DeclarationError Unit :=
  if fields.all fun (name, _) => known.contains name then .ok () else .error unfit

def value (fields : List (String × Value)) (name : String) (default? : Value) : Value :=
  (fields.lookup name).getD default?

def listed (fields : List (String × Value)) (name : String) :
    Except DeclarationError (List Value) :=
  fitting (value fields name (.list [])).elements

def text (v : Value) : Except DeclarationError String := fitting v.onlyText

def textNeeded (fields : List (String × Value)) (name : String) : Except DeclarationError String :=
  text (value fields name .null)

def needed (fields : List (String × Value)) (name : String) : Except DeclarationError Value :=
  match fields.lookup name with
  | some v => .ok v
  | none => .error unfit

def timeOf (v : Value) : Except DeclarationError (Option Timestamp) :=
  match v with
  | .text s =>
    if s == "" then .ok none else ((Timestamp.ofText s).map some).mapError .badTime
  | v => if v.isTrue then .error unfit else .ok none

def items {α : Type} (read : Value → Except DeclarationError α) :
    List Value → Except DeclarationError (List α)
  | [] => .ok []
  | v :: rest => do
    let a ← read v
    let more ← items read rest
    return a :: more

end Declaration

end SchemaMigration
