import HotelBooking.Store.Action

/-!
# Tables

A table keeps its rows in the order of insertion and numbers them from 1. Rows are
found by a key. A number, once given, is never given again.
-/

namespace HotelBooking

/-- The rows of a table and the last number given to one. -/
structure Table (ρ : Type) where
  rows : List ρ := []
  lastId : Int32 := 0
  deriving Inhabited, DecidableEq

namespace Table

variable {ρ : Type}

/-- The first row that satisfies `p`. -/
def find? (t : Table ρ) (p : ρ → Bool) : Option ρ :=
  t.rows.find? p

/-- Append the row that `number` makes of the next number. -/
def append (t : Table ρ) (number : Int32 → ρ) : ρ × Table ρ :=
  let id := t.lastId + 1
  (number id, { rows := t.rows ++ [number id], lastId := id })

/-- Change the first row of a list that satisfies `p`. -/
def replaceFirst (p : ρ → Bool) (change : ρ → ρ) : List ρ → List ρ
  | [] => []
  | r :: rs => if p r then change r :: rs else r :: replaceFirst p change rs

/-- Change the first row that satisfies `p`, and return it as it is then. -/
def modify (t : Table ρ) (p : ρ → Bool) (change : ρ → ρ) : Option ρ × Table ρ :=
  ((t.find? p).map change, { t with rows := replaceFirst p change t.rows })

/-! The same as actions on the table. -/

def lookup (p : ρ → Bool) : Action (Table ρ) (Option ρ) :=
  Action.look fun t => t.find? p

/-- Append a row unless one satisfies `p` already, which is an error. -/
def insertUnless (p : ρ → Bool) (clash : String) (number : Int32 → ρ) :
    Action (Table ρ) ρ := do
  if ((← get).find? p).isSome then throw (.storage clash)
  modifyGet fun t => t.append number

def updateFirst (p : ρ → Bool) (change : ρ → ρ) : Action (Table ρ) (Option ρ) :=
  modifyGet fun t => t.modify p change

@[simp] theorem perform_lookup (p : ρ → Bool) (t : Table ρ) :
    (lookup p).perform t = (.ok (t.find? p), t) :=
  rfl

@[simp] theorem perform_updateFirst (p : ρ → Bool) (change : ρ → ρ) (t : Table ρ) :
    (updateFirst p change).perform t = (.ok ((t.find? p).map change), (t.modify p change).2) :=
  rfl

theorem perform_insertUnless (p : ρ → Bool) (clash : String) (number : Int32 → ρ)
    (t : Table ρ) :
    (insertUnless p clash number).perform t =
      if (t.find? p).isSome then (.error (.storage clash), t)
      else (.ok (t.append number).1, (t.append number).2) := by
  rw [insertUnless, Action.perform_bind, Action.perform_get]
  cases h : (t.find? p).isSome <;> simp [h]

end Table

end HotelBooking
