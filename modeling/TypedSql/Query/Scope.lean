import TypedSql.Filter.Basic

/-!
# Scopes: which rows a statement is about

A scope is a filter, an order and bounds on the number of rows.  A statement that
writes takes its bounds through a nested selection of row ids, since the
language has no bounds for it; the order matters only together with a bound.
-/

namespace TypedSql

inductive Direction where
  | ascending
  | descending
deriving DecidableEq

instance : Inhabited Direction := ⟨.ascending⟩

def Direction.word : Direction → String
  | ascending => "ASC"
  | descending => "DESC"

structure SortKey where
  column : String
  direction : Direction
deriving DecidableEq

/-- How many rows are taken and how many are passed over before. -/
structure Bounds where
  limit : Option Int64
  offset : Option Int64
deriving DecidableEq

namespace Bounds

def none : Bounds := ⟨.none, .none⟩

def isNone (b : Bounds) : Bool := b.limit.isNone && b.offset.isNone

/-- An offset needs a limit in front of it; a negative one is no limit. -/
def sql (b : Bounds) : Sql :=
  match b.limit, b.offset with
  | some n, some k => [.word " LIMIT ", .number n.toInt, .word " OFFSET ", .number k.toInt]
  | some n, .none => [.word " LIMIT ", .number n.toInt]
  | .none, some k => [.word " LIMIT -1 OFFSET ", .number k.toInt]
  | .none, .none => []

end Bounds

/-- A keyword and what it governs; nothing where it governs nothing. -/
def Sql.clause (keyword : String) (body : Sql) : Sql :=
  if body.isEmpty then [] else .word keyword :: body

/-- `name direction` -/
def SortKey.render (k : SortKey) : Render Sql := do
  return [← Render.name k.column, .word (" " ++ k.direction.word)]

def renderOrder (keys : List SortKey) : Render Sql := do
  let keys ← keys.mapM SortKey.render
  return Sql.clause " ORDER BY " (Sql.join ", " keys)

structure Scope where
  filter : Filter
  order : List SortKey
  bounds : Bounds
deriving DecidableEq

namespace Scope

def all : Scope := ⟨.empty, [], .none⟩

/-- A step in building a scope. -/
inductive Call where
  | andWhere (c : Conditions)
  | whereCmp (column symbol : String) (v : Value)
  | orWhere (c : Conditions)
  | orWhereCmp (column symbol : String) (v : Value)
  | orderBy (column : String) (direction : Direction)
  | limit (n : Int64)
  | offset (n : Int64)
deriving DecidableEq

/-- Conditions are merged into the base of the filter or become an alternative
to it, sort keys are appended, and of two bounds of a kind the last one counts. -/
def apply (s : Scope) : Call → Scope
  | .andWhere c => { s with filter := s.filter.andWhere c }
  | .whereCmp column symbol v =>
    { s with filter := s.filter.andColumn column (.compare symbol v) }
  | .orWhere c => { s with filter := s.filter.orWhere c }
  | .orWhereCmp column symbol v =>
    { s with filter := s.filter.orWhere (.single column (.compare symbol v)) }
  | .orderBy column direction => { s with order := s.order ++ [⟨column, direction⟩] }
  | .limit n => { s with bounds := { s.bounds with limit := some n } }
  | .offset n => { s with bounds := { s.bounds with offset := some n } }

/-- The restriction of a writing statement on a table. -/
def renderRestriction (s : Scope) (table : Token) : Render Sql := do
  let filter ← s.filter.render
  if s.bounds.isNone then return Sql.clause " WHERE " filter
  let order ← renderOrder s.order
  return [.word " WHERE rowid IN (", .word "SELECT rowid FROM ", table] ++
    Sql.clause " WHERE " filter ++ order ++ s.bounds.sql ++ [.word ")"]

end Scope

end TypedSql
