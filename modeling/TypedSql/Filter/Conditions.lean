import TypedSql.ColumnMap
import TypedSql.Filter.Symbol

/-!
# Conditions on columns

A `Constraint` is a value that the column has to equal or a set of operators;
`Conditions` hold one for each column.  All of them have to hold: they are
written as atoms joined by AND, columns in the order of insertion.  A column
whose operators are empty contributes no atom, but its name is read all the same.
-/

namespace TypedSql

inductive Constraint where
  | scalar (v : Value)
  | operators (os : Operators)
deriving DecidableEq

namespace Constraint

/-- The operators that the constraint stands for. -/
def ops : Constraint → List Op
  | scalar v => [.eq v]
  | operators os => os.toList

/-- `column symbol value` -/
def compare (symbol : String) (v : Value) : Constraint := .operators (.ofSymbol symbol v)

def equals : Constraint → Constraint → Bool
  | scalar v, scalar w => v.equals w
  | operators a, operators b => a.equals b
  | _, _ => false

end Constraint

abbrev Conditions := ColumnMap Constraint

namespace Conditions

def equals (a b : Conditions) : Bool := ColumnMap.equals Constraint.equals a b

/-- One atom for each operator on a column. -/
def columnAtoms (column : String) (k : Constraint) : Render (List Sql) := do
  let c ← Render.name column
  k.ops.mapM (Op.render c)

def atoms (entries : List (String × Constraint)) : Render (List Sql) := do
  return (← entries.mapM fun e => columnAtoms e.1 e.2).flatten

def render (c : Conditions) : Render Sql := do
  return Sql.join " AND " (← atoms c.entries)

/-- The conditions by themselves. -/
def compile (c : Conditions) : Except RenderFault Statement := (render c).statement

end Conditions

end TypedSql
