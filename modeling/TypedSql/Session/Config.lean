/-!
# Configuration of a database handle
-/

namespace TypedSql

structure Config where
  cacheEnabled : Bool
  cacheCapacity : Nat
  /-- statements that take at least this many milliseconds are reported -/
  slowThreshold : Option Nat
  /-- the bytes of a statement that are reported; all of them for `none` -/
  maxSqlLength : Option Nat
deriving DecidableEq

namespace Config

def new : Config :=
  { cacheEnabled := true, cacheCapacity := 128, slowThreshold := none, maxSqlLength := some 200 }

instance : Inhabited Config := ⟨new⟩

/-- A step in building a configuration. -/
inductive Call where
  | statementCache (capacity : Nat)
  | noStatementCache
  | slowThreshold (milliseconds : Nat)
  | maxSqlLength (bytes : Nat)
  | noTruncate
  | cache (enabled : Bool) (capacity : Nat)
deriving DecidableEq

/-- A cache that can hold nothing is switched off. -/
def apply (c : Config) : Call → Config
  | .statementCache n => { c with cacheEnabled := 0 < n, cacheCapacity := n }
  | .noStatementCache => { c with cacheEnabled := false }
  | .slowThreshold n => { c with slowThreshold := some n }
  | .maxSqlLength n => { c with maxSqlLength := some n }
  | .noTruncate => { c with maxSqlLength := none }
  | .cache enabled n => { c with cacheEnabled := enabled, cacheCapacity := n }

/-- Whether statements go through the cache. -/
def usesCache (c : Config) : Bool := c.cacheEnabled && 0 < c.cacheCapacity

end Config

end TypedSql
