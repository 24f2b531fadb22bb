import TypedSql.Sql.Render

/-!
# Operators on a column

Every operator has a slot of its own, and operators are written in the order of
their slots:

    inOrder[op.slot]? = some op.bare                    (getElem?_inOrder_slot)
    a.slot = b.slot ↔ a.bare = b.bare                             (slot_eq_iff)

SQL has no empty list of values: to be one of none is written as `1=0`,
and not to be one of none as `1=1`.
-/

namespace TypedSql

inductive Op where
  | eq (v : Value)
  | ne (v : Value)
  | gt (v : Value)
  | gte (v : Value)
  | lt (v : Value)
  | lte (v : Value)
  | like (pattern : Value)
  | notLike (pattern : Value)
  | oneOf (values : List Value)
  | noneOf (values : List Value)
  | between (low high : Value)
  | isNull (b : Bool)
deriving DecidableEq

namespace Op

def slot : Op → Nat
  | eq _ => 0
  | ne _ => 1
  | gt _ => 2
  | gte _ => 3
  | lt _ => 4
  | lte _ => 5
  | like _ => 6
  | notLike _ => 7
  | oneOf _ => 8
  | noneOf _ => 9
  | between _ _ => 10
  | isNull _ => 11

/-- The operator with nothing in its payload. -/
def bare : Op → Op
  | eq _ => eq .null
  | ne _ => ne .null
  | gt _ => gt .null
  | gte _ => gte .null
  | lt _ => lt .null
  | lte _ => lte .null
  | like _ => like .null
  | notLike _ => notLike .null
  | oneOf _ => oneOf []
  | noneOf _ => noneOf []
  | between _ _ => between .null .null
  | isNull _ => isNull false

/-- All operators in the order in which they are written, each with nothing in its payload. -/
def inOrder : List Op :=
  [eq .null, ne .null, gt .null, gte .null, lt .null, lte .null, like .null, notLike .null,
    oneOf [], noneOf [], between .null .null, isNull false]

/-- The slot of an operator is its place in that order. -/
theorem getElem?_inOrder_slot (op : Op) : inOrder[op.slot]? = some op.bare := by
  cases op <;> rfl

theorem slot_bare (op : Op) : op.bare.slot = op.slot := by
  cases op <;> rfl

/-- Operators share a slot if and only if they are the same but for their payloads. -/
theorem slot_eq_iff {a b : Op} : a.slot = b.slot ↔ a.bare = b.bare := by
  constructor
  · intro h
    have hbare : inOrder[a.slot]? = some b.bare := h ▸ b.getElem?_inOrder_slot
    exact Option.some.inj (a.getElem?_inOrder_slot.symm.trans hbare)
  · intro h
    rw [← slot_bare a, h, slot_bare]

theorem slot_lt (op : Op) : op.slot < 12 :=
  (List.getElem?_eq_some_iff.1 op.getElem?_inOrder_slot).1

/-- The values that the operator binds, in the order of its placeholders. -/
def operands : Op → List Value
  | eq v | ne v | gt v | gte v | lt v | lte v | like v | notLike v => [v]
  | oneOf vs | noneOf vs => vs
  | between low high => [low, high]
  | isNull _ => []

def equals : Op → Op → Bool
  | isNull a, isNull b => a == b
  | a, b => a.slot == b.slot && a.operands.isEqv b.operands Value.equals

/-- `column operator ?` -/
def comparison (column : Token) (operator : String) (v : Value) : Render Sql := do
  return [column, .word (" " ++ operator ++ " "), ← Render.slot v]

/-- `column operator (?, …)`, or a constant for no values. -/
def membership (column : Token) (operator constant : String) (values : List Value) :
    Render Sql := do
  if values.isEmpty then return [.word constant]
  return [column, .word (" " ++ operator ++ " (")] ++ (← Render.slots values) ++ [.word ")"]

def render (column : Token) : Op → Render Sql
  | eq v => comparison column "=" v
  | ne v => comparison column "!=" v
  | gt v => comparison column ">" v
  | gte v => comparison column ">=" v
  | lt v => comparison column "<" v
  | lte v => comparison column "<=" v
  | like v => comparison column "LIKE" v
  | notLike v => comparison column "NOT LIKE" v
  | oneOf vs => membership column "IN" "1=0" vs
  | noneOf vs => membership column "NOT IN" "1=1" vs
  | between low high => do
    return [column, .word " BETWEEN ", ← Render.slot low, .word " AND ", ← Render.slot high]
  | isNull true => return [column, .word " IS NULL"]
  | isNull false => return [column, .word " IS NOT NULL"]

end Op

end TypedSql
