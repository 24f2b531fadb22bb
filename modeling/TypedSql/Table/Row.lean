import TypedSql.Table.Payload
import TypedSql.Value.Decode

/-!
# Rows

A row is what a query answers: cells in the order of the result, where a join
may name two of them alike.  A column is looked up at its first cell.
-/

namespace TypedSql

structure Row where
  cells : List (String × Value)
deriving DecidableEq

namespace Row

def columns (r : Row) : List String := r.cells.map Prod.fst

def size (r : Row) : Nat := r.cells.length

def isEmpty (r : Row) : Bool := r.cells.isEmpty

/-- The value of the first cell of that name. -/
def value? (r : Row) (column : String) : Option Value := r.cells.lookup column

def valueAt? (r : Row) (i : Nat) : Option Value := r.cells[i]?.map Prod.snd

/-- Reads a value as an `α`, a failure naming the column. -/
def decode {α : Type} [FromValue α] (column : String) (v : Value) : Except Error α :=
  match fromValue v with
  | .ok a => .ok a
  | .error fault => .error (.decode column fault.message)

def get {α : Type} [FromValue α] (r : Row) (column : String) : Except Error α :=
  match r.value? column with
  | some v => decode column v
  | none => .error (.decode column "no such column")

def getAt {α : Type} [FromValue α] (r : Row) (i : Nat) : Except Error α :=
  match r.cells[i]? with
  | some (column, v) => decode column v
  | none => .error (.decode "?" ("column index " ++ toString i ++ " out of range"))

/-- Overwrites the first cell of that name, or appends one. -/
def set (r : Row) (column : String) (v : Value) : Row := ⟨ColumnMap.setEntry column v r.cells⟩

/-- Of cells with one name the last one is kept. -/
def toJson (r : Row) : Json := Json.ofFields (r.cells.map fun c => (c.1, c.2.toJson))

/-- Of cells with one name the first gives the place and the last the value. -/
def toPayload (r : Row) : Payload := .ofList r.cells

def ofPayload (p : Payload) : Row := ⟨p.entries⟩

def equals (a b : Row) : Bool := a.cells.isEqv b.cells fun c d => c.1 == d.1 && c.2.equals d.2

end Row

/-- Types that can be made from a row. -/
class FromRow (α : Type) where
  fromRow : Row → Except Error α

export FromRow (fromRow)

instance : FromRow Row := ⟨.ok⟩
instance : FromRow Json := ⟨fun r => .ok r.toJson⟩

end TypedSql
