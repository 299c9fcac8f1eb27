import SchemaMigration.Timestamp.Basic

namespace SchemaMigration.Sqlite

structure Occasion where
  now : Timestamp := .ofUnixSeconds 0
  lastRow : Int := 0
  changed : Nat := 0
  total : Nat := 0
  deriving DecidableEq, Repr

namespace Occasion

def after (o : Occasion) (count : Nat) (lastRow : Option Int) : Occasion :=
  { o with lastRow := lastRow.getD o.lastRow, changed := count, total := o.total + count }

def text (o : Occasion) (word : String) : String :=
  let date := Timestamp.dateChars o.now.year o.now.month o.now.day
  let time := Timestamp.two o.now.hour ++ ':' :: Timestamp.two o.now.minute ++
    ':' :: Timestamp.two o.now.second
  String.ofList (match word with
    | "CURRENT_DATE" => date
    | "CURRENT_TIME" => time
    | _ => date ++ ' ' :: time)

end Occasion

end SchemaMigration.Sqlite
