import Std.Data.HashMap

/-!
# The statement cache

Prepared statements by their text, of which the least recently used go when
there are more than the capacity.  `recency` lists the texts from the least to
the most recently used.
-/

namespace TypedSql

structure StatementCache (S : Type) where
  capacity : Nat
  prepared : Std.HashMap String S
  recency : List String
  hits : Nat
  misses : Nat

namespace StatementCache

variable {S : Type}

def new (capacity : Nat) : StatementCache S :=
  { capacity, prepared := ∅, recency := [], hits := 0, misses := 0 }

def size (c : StatementCache S) : Nat := c.prepared.size

/-- Moves a text to the end. -/
def touch (sql : String) (recency : List String) : List String :=
  if sql ∈ recency then recency.erase sql ++ [sql] else recency

/-- The statement of a text, if it is there, and the cache after its use. -/
def hit? (c : StatementCache S) (sql : String) : Option (S × StatementCache S) :=
  (c.prepared[sql]?).map fun stmt =>
    (stmt, { c with hits := c.hits + 1, recency := touch sql c.recency })

/-- Removes statements from the front of `recency` until at most `capacity` are
left; also the texts of those removed. -/
def evict (capacity : Nat) (prepared : Std.HashMap String S) :
    List String → Std.HashMap String S × List String × List String
  | [] => (prepared, [], [])
  | sql :: recency =>
    if capacity < prepared.size then
      let (prepared, recency, evicted) := evict capacity (prepared.erase sql) recency
      (prepared, recency, sql :: evicted)
    else (prepared, sql :: recency, [])

/-- Adds a statement that was missing; also the texts that had to go for it. -/
def add (c : StatementCache S) (sql : String) (stmt : S) : StatementCache S × List String :=
  let (prepared, recency, evicted) :=
    evict c.capacity (c.prepared.insert sql stmt) (c.recency ++ [sql])
  ({ c with prepared, recency, misses := c.misses + 1 }, evicted)

/-- Drops every statement and keeps the counts. -/
def clear (c : StatementCache S) : StatementCache S := { c with prepared := ∅, recency := [] }

end StatementCache

end TypedSql
