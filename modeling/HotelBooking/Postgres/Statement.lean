import HotelBooking.Date.Text
import HotelBooking.Uid

/-!
# SQL statements

The statements that the tables are used by. A statement is kept as what it does: which
column gets which value, and by which column rows are chosen. Its text numbers the
values in the order in which it mentions them, and the parameters follow that order, so a
value can stand under no other column than its own.
-/

namespace HotelBooking.Postgres

/-- A value of a column or a parameter. -/
inductive Value where
  | null
  | int (n : Int)
  | text (s : String)
  | uid (u : Uid)
  | date (d : Date)
  deriving DecidableEq, Inhabited

/-- The value under each column. -/
abbrev Row := List (String × Value)

inductive Statement where
  /-- Add a row of these values. -/
  | insert (table : String) (values : Row) (returning : List String)
  /-- Put values into the row of a key. -/
  | update (table : String) (key : String × Value) (values : Row) (returning : List String)
  /-- All rows of a key, in the order of a column if one is given. -/
  | select (columns : List String) (table : String) (key : String × Value)
      (order : Option String)
  /-- Some rows in the order of a column. -/
  | slice (columns : List String) (table order : String) (limit offset : Int64)
  | count (table : String)
  deriving DecidableEq, Inhabited

namespace Statement

/-- The values that a statement sends along. -/
def params : Statement → List Value
  | insert _ values _ => values.map Prod.snd
  | update _ key values _ => key.2 :: values.map Prod.snd
  | select _ _ key _ => [key.2]
  | slice _ _ _ limit offset => [.int limit.toInt, .int offset.toInt]
  | count _ => []

/-- The place of the parameter with this number. -/
def placeholder (n : Nat) : String :=
  "$" ++ Decimal.ofNat n

def commas (parts : List String) : String :=
  String.intercalate ", " parts

/-- The text of a statement. -/
def sql : Statement → String
  | insert table values returning =>
    "INSERT INTO " ++ table ++ " (" ++ commas (values.map Prod.fst) ++ ") VALUES (" ++
      commas ((List.range values.length).map fun i => placeholder (i + 1)) ++ ") RETURNING " ++
      commas returning
  | update table key values returning =>
    "UPDATE " ++ table ++ " SET " ++
      commas ((values.zipIdx 2).map fun (v, i) => v.1 ++ " = " ++ placeholder i) ++
      " WHERE " ++ key.1 ++ " = " ++ placeholder 1 ++ " RETURNING " ++ commas returning
  | select columns table key order =>
    "SELECT " ++ commas columns ++ " FROM " ++ table ++ " WHERE " ++ key.1 ++ " = " ++
      placeholder 1 ++ (order.map fun o => " ORDER BY " ++ o).getD ""
  | slice columns table order _ _ =>
    "SELECT " ++ commas columns ++ " FROM " ++ table ++ " ORDER BY " ++ order ++ " LIMIT " ++
      placeholder 1 ++ " OFFSET " ++ placeholder 2
  | count table => "SELECT COUNT(*) FROM " ++ table

end Statement

end HotelBooking.Postgres
