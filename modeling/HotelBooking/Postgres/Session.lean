import HotelBooking.Postgres.Statement
import HotelBooking.Store.Action

/-!
# Sessions with a database

A session keeps the statements sent so far and the answers that the server has yet to
give, one for each statement; where none is left, the server answers with no rows. The
readers of rows say what is wrong with a column in the words of the database client.
-/

namespace HotelBooking.Postgres

/-- What the server says to a statement. -/
inductive Answer where
  | rows (rows : List Row)
  | failure (message : String)
  deriving DecidableEq, Inhabited

structure Session where
  answers : List Answer := []
  sent : List Statement := []
  deriving DecidableEq, Inhabited

/-- The complaint of the database. -/
def databaseError (message : String) : ServiceError :=
  .storage ("error returned from database: " ++ message)

def noRow : ServiceError :=
  .storage "no rows returned by a query that expected to return at least one row"

/-- Send a statement and take the server's answer. -/
def execute (s : Statement) : Action Session (List Row) := do
  let session ← get
  set { answers := session.answers.drop 1, sent := session.sent ++ [s] : Session }
  match session.answers.head?.getD (.rows []) with
  | .rows rows => return rows
  | .failure message => throw (databaseError message)

/-! ## Reading rows -/

def missingColumn (column : String) : ServiceError :=
  .storage ("no column found for name: " ++ column)

def noColumn : ServiceError :=
  .storage "column index out of bounds: the len is 0, but the index is 0"

def badColumn (column reason : String) : ServiceError :=
  .storage ("error occurred while decoding column " ++ column ++ ": " ++ reason)

namespace Row

variable {α : Type}

/-- What `read` makes of the value of a column, which errors call by a label. -/
def take (label : String) (read : Value → Option α) (v : Value) : Outcome α :=
  match v, read v with
  | .null, _ => .error (badColumn label "unexpected null; try decoding as an \x60Option\x60")
  | _, some a => .ok a
  | _, none => .error (badColumn label "mismatched types")

/-- The value of a column. -/
def column (r : Row) (name : String) (read : Value → Option α) : Outcome α :=
  match r.lookup name with
  | none => .error (missingColumn name)
  | some v => take ("\"" ++ name ++ "\"") read v

/-- The value of the first column, whatever its name. -/
def first (r : Row) (read : Value → Option α) : Outcome α :=
  match r with
  | [] => .error noColumn
  | (_, v) :: _ => take "0" read v

/-- The same of a column that may be null. -/
def nullable (r : Row) (name : String) (read : Value → Option α) : Outcome (Option α) :=
  match r.lookup name with
  | some .null => .ok none
  | _ => (column r name read).map some

end Row

namespace Value

def int32? : Value → Option Int32
  | int n => HotelBooking.int32? n
  | _ => none

def int64? : Value → Option Int64
  | int n => HotelBooking.int64? n
  | _ => none

def text? : Value → Option String
  | text s => some s
  | _ => none

def uid? : Value → Option Uid
  | uid u => some u
  | _ => none

def date? : Value → Option Date
  | date d => some d
  | _ => none

end Value

/-! ## Statements whose answers are read -/

section

variable {α β : Type}

/-- Go on with the value of an outcome. -/
def settled (o : Outcome α) : Action Session α :=
  ExceptT.mk (pure o)

/-- All rows; every row is read before the first one is converted. -/
def fetchAll (s : Statement) (read : Row → Outcome α) (convert : α → Outcome β) :
    Action Session (List β) := do
  let rows ← execute s
  let found ← settled (rows.mapM read)
  settled (found.mapM convert)

/-- The first row, if there is one. -/
def fetchOptional (s : Statement) (read : Row → Outcome α) (convert : α → Outcome β) :
    Action Session (Option β) := do
  match ← execute s with
  | [] => return none
  | r :: _ => return some (← settled (read r >>= convert))

/-- The first row, which has to be there. -/
def fetchOne (s : Statement) (read : Row → Outcome α) (convert : α → Outcome β) :
    Action Session β := do
  match ← fetchOptional s read convert with
  | some b => return b
  | none => throw noRow

end

end HotelBooking.Postgres
