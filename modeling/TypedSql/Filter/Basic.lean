import TypedSql.Filter.Conditions

/-!
# Filters

A filter is a base mapping and a list of alternatives to it.  A row passes when
it meets the whole of the base or the whole of an alternative: an alternative
stands beside the base and is no term inside it.  Mappings that constrain
nothing are left out, and parentheses stand only where there are two or more.

    base {status = active}, alternative {role = admin}:  ("status" = ?) OR ("role" = ?)
-/

namespace TypedSql

structure Filter where
  base : Conditions
  alternatives : List Conditions
deriving DecidableEq

namespace Filter

def empty : Filter := ⟨∅, []⟩

/-- Merges conditions into the base; they win where both have a column. -/
def andWhere (f : Filter) (c : Conditions) : Filter := { f with base := f.base.merge c }

def andColumn (f : Filter) (column : String) (k : Constraint) : Filter :=
  { f with base := f.base.insert column k }

def orWhere (f : Filter) (c : Conditions) : Filter :=
  { f with alternatives := f.alternatives ++ [c] }

def isEmpty (f : Filter) : Bool := f.base.isEmpty && f.alternatives.all ColumnMap.isEmpty

def parenthesised (sql : Sql) : Sql := .word "(" :: sql ++ [.word ")"]

/-- The disjunction of fragments none of which is empty. -/
def disjunction : List Sql → Sql
  | [] => []
  | [sql] => sql
  | sqls => Sql.join " OR " (sqls.map parenthesised)

/-- The base and the alternatives; nothing where nothing is constrained. -/
def render (f : Filter) : Render Sql := do
  let fragments ← (f.base :: f.alternatives).mapM Conditions.render
  return disjunction (fragments.filter fun sql => !sql.isEmpty)

/-- The base alone. -/
def renderBase (f : Filter) : Render Sql := f.base.render

end Filter

end TypedSql
