import TypedSql.Table.Row

/-!
# Records

A record is a row together with the table it was read from and the name of the
table's key, so that it can be found there again.
-/

namespace TypedSql

structure Record where
  table : String
  primaryKey : Option String
  row : Row
deriving DecidableEq

namespace Record

def noPrimaryKey (table : String) : Error :=
  .configuration ("table \"" ++ table ++ "\" has no primary key")

/-- The key and this row's value for it, which must not be NULL. -/
def id (r : Record) : Except Error (String × Value) :=
  match r.primaryKey with
  | none => .error (noPrimaryKey r.table)
  | some key =>
    match r.row.value? key with
    | some v =>
      if v.isNull then .error (missingKey key) else .ok (key, v)
    | none => .error (missingKey key)
where
  missingKey (key : String) : Error :=
    .configuration ("row from \"" ++ r.table ++ "\" carries no value for primary key \"" ++ key ++
      "\"")

def get {α : Type} [FromValue α] (r : Record) (column : String) : Except Error α := r.row.get column

/-- Changes a cell in memory. -/
def set (r : Record) (column : String) (v : Value) : Record := { r with row := r.row.set column v }

/-- Changes a cell for each column of a payload. -/
def setAll (r : Record) (p : Payload) : Record :=
  p.entries.foldl (fun r e => r.set e.1 e.2) r

end Record

end TypedSql
