/-!
# Errors

Everything that can go wrong, by cause.  `message` is what a reader sees.
-/

namespace TypedSql

inductive Error where
  /-- the engine refused a statement -/
  | query (message : String)
  | notFound (message : String)
  /-- a unique or primary-key constraint -/
  | uniqueViolation (message : String)
  | notNullViolation (message : String)
  | foreignKeyViolation (message : String)
  | checkViolation (message : String)
  /-- an operation lacks something that was never set up, such as a primary key -/
  | configuration (message : String)
  /-- a builder cannot be written as SQL -/
  | render (message : String)
  | transaction (message : String)
  /-- a column cannot be read as the type asked for -/
  | decode (column message : String)
  | serialization (message : String)
  | other (message : String)
deriving DecidableEq

namespace Error

def message : Error → String
  | query m => "Query error: " ++ m
  | notFound m => "Not found: " ++ m
  | uniqueViolation m => "Unique constraint violation: " ++ m
  | notNullViolation m => "Not-null constraint violation: " ++ m
  | foreignKeyViolation m => "Foreign key violation: " ++ m
  | checkViolation m => "Check constraint violation: " ++ m
  | configuration m => "Configuration error: " ++ m
  | render m => "Render error: " ++ m
  | transaction m => "Transaction error: " ++ m
  | decode column m => "Decode error on column '" ++ column ++ "': " ++ m
  | serialization m => "Serialization error: " ++ m
  | other m => m

def isNotFound : Error → Bool
  | notFound _ => true
  | _ => false

def isUniqueViolation : Error → Bool
  | uniqueViolation _ => true
  | _ => false

def isConstraintViolation : Error → Bool
  | uniqueViolation _ | notNullViolation _ | foreignKeyViolation _ | checkViolation _ => true
  | _ => false

end Error

end TypedSql
