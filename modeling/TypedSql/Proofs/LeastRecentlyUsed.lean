import TypedSql.Proofs.Handle
import TypedSql.Proofs.Sheet

/-!
# The cache holds what was used last

Whatever is looked up and cleared on a new cache of a capacity `n ≥ 1`, and whatever the
engine prepares or refuses, the cache holds the last `n` of the texts that were found
since it was cleared, in the order of their last use:

    db.cache.recency = retained n (uses outcomes)                   (cache_follows_uses)

One call carries the record of the calls before it on (`Recorded.step`), and so does any
sequence of them (`Recorded.history`).  Where a text can be prepared in every state of the
engine or in none, the record tells what the calls come to (`Recorded.outcomes_eq`).
-/

namespace TypedSql

/-- A call to the cache of a handle. -/
inductive CacheCall where
  | lookUp (sql : String)
  | clear
deriving DecidableEq

/-- What a call to the cache came to. -/
inductive CacheOutcome where
  | found (sql : String) (how : Lookup)
  | refused (sql : String) (error : Error)
  | cleared
deriving DecidableEq

namespace CacheOutcome

/-- The texts found since the last clearing, each time they were, after one more call. -/
def use (uses : List String) : CacheOutcome → List String
  | found sql _ => uses ++ [sql]
  | refused .. => uses
  | cleared => []

def uses (outcomes : List CacheOutcome) : List String := outcomes.foldl use []

def isFound : CacheOutcome → Bool
  | found .. => true
  | _ => false

def isFoundBy (how : Lookup) : CacheOutcome → Bool
  | found _ how' => how' == how
  | _ => false

/-- How many lookups found their text. -/
def foundCount (outcomes : List CacheOutcome) : Nat := outcomes.countP isFound

/-- How many lookups found their text in that way. -/
def countBy (how : Lookup) (outcomes : List CacheOutcome) : Nat := outcomes.countP (isFoundBy how)

theorem uses_concat (outcomes : List CacheOutcome) (o : CacheOutcome) :
    uses (outcomes ++ [o]) = use (uses outcomes) o := by
  rw [uses, List.foldl_append]
  rfl

theorem foundCount_concat (outcomes : List CacheOutcome) (o : CacheOutcome) :
    foundCount (outcomes ++ [o]) = foundCount outcomes + if o.isFound then 1 else 0 := by
  rw [foundCount, List.countP_append, List.countP_singleton, foundCount]

theorem countBy_concat (how : Lookup) (outcomes : List CacheOutcome) (o : CacheOutcome) :
    countBy how (outcomes ++ [o]) = countBy how outcomes + if o.isFoundBy how then 1 else 0 := by
  rw [countBy, List.countP_append, List.countP_singleton, countBy]

end CacheOutcome

open CacheOutcome Database

variable {σ S : Type}

namespace CacheCall

def run (e : Engine σ S) : CacheCall → Database σ S → CacheOutcome × Database σ S
  | lookUp sql, db =>
    match (cached e sql).runOn db with
    | (.ok (_, how), db) => (.found sql how, db)
    | (.error error, db) => (.refused sql error, db)
  | clear, db => (.cleared, db.clearCache)

/-- Calls one after the other. -/
def history (e : Engine σ S) : List CacheCall → Database σ S → List CacheOutcome × Database σ S
  | [], db => ([], db)
  | call :: calls, db =>
    let (outcome, db) := call.run e db
    let (outcomes, db) := history e calls db
    (outcome :: outcomes, db)

/-- What a call comes to after `outcomes`, where `compile` says which texts can be prepared. -/
def foretold (n : Nat) (compile : String → Except EngineFault S) (outcomes : List CacheOutcome) :
    CacheCall → CacheOutcome
  | lookUp sql =>
    if sql ∈ retained n (uses outcomes) then .found sql .hit
    else match compile sql with
      | .ok _ => .found sql .miss
      | .error fault => .refused sql (.ofEngine fault)
  | clear => .cleared

/-- And what calls come to, one after the other. -/
def foretoldAll (n : Nat) (compile : String → Except EngineFault S) :
    List CacheOutcome → List CacheCall → List CacheOutcome
  | _, [] => []
  | outcomes, call :: calls =>
    let outcome := call.foretold n compile outcomes
    outcome :: foretoldAll n compile (outcomes ++ [outcome]) calls

end CacheCall

/-! ## Records -/

/-- What the cache holds and has counted after calls that came to `outcomes`. -/
structure Recorded (n : Nat) (outcomes : List CacheOutcome) (db : Database σ S) : Prop where
  capacity : db.cache.capacity = n
  retains : db.cache.Retains (uses outcomes)
  hits : db.cache.hits = countBy .hit outcomes
  misses : db.cache.misses = countBy .miss outcomes
  found : db.cache.hits + db.cache.misses = foundCount outcomes

namespace Recorded

variable {n : Nat} {outcomes : List CacheOutcome} {db : Database σ S} {sql : String}

theorem opened (config : Config) (connection : Connection σ) :
    Recorded config.cacheCapacity [] (Database.open config connection : Database σ S) where
  capacity := rfl
  retains := .new _
  hits := rfl
  misses := rfl
  found := rfl

/-- A text that is held is found without the engine. -/
theorem runOn_cached_of_mem (h : Recorded n outcomes db) (hsql : sql ∈ db.cache.recency) :
    ∃ stmt, ∀ e : Engine σ S, (cached e sql).runOn db =
      (.ok (stmt, .hit), { db with cache := db.cache.used sql }) := by
  have hmem : sql ∈ db.cache.prepared := h.retains.mem_iff.2 hsql
  exact ⟨_, fun e => runOn_cached_hit e (Std.HashMap.getElem?_eq_some_getElem hmem)⟩

theorem getElem?_eq_none (h : Recorded n outcomes db) (hsql : sql ∉ db.cache.recency) :
    db.cache.prepared[sql]? = none :=
  Std.HashMap.getElem?_eq_none fun hmem => hsql (h.retains.mem_iff.1 hmem)

theorem runOn_cached_of_notMem (h : Recorded n outcomes db) (hn : 1 ≤ n)
    (hsql : sql ∉ db.cache.recency) {e : Engine σ S} {stmt : S} {s : σ}
    (hprepare : e.prepare sql db.connection.engine = (.ok stmt, s)) :
    (cached e sql).runOn db =
      (.ok (stmt, .miss), { (db.moved s).reported ((db.cache.add sql stmt).2.map .evicted) with
        cache := (db.cache.add sql stmt).1 }) :=
  runOn_cached_miss e (h.getElem?_eq_none hsql) hprepare
    (h.retains.getElem?_add_self hsql (h.capacity ▸ hn) stmt)

/-- One more outcome, with the counts that go with it. -/
theorem concat (h : Recorded n outcomes db) {o : CacheOutcome} {db' : Database σ S}
    (ho : ∀ sql, o ≠ .found sql .off) (hcapacity : db'.cache.capacity = db.cache.capacity)
    (hretains : db'.cache.Retains (use (uses outcomes) o))
    (hhits : db'.cache.hits = db.cache.hits + if o.isFoundBy .hit then 1 else 0)
    (hmisses : db'.cache.misses = db.cache.misses + if o.isFoundBy .miss then 1 else 0) :
    Recorded n (outcomes ++ [o]) db' where
  capacity := hcapacity.trans h.capacity
  retains := by rwa [uses_concat]
  hits := by rw [hhits, h.hits, countBy_concat]
  misses := by rw [hmisses, h.misses, countBy_concat]
  found := by
    rw [hhits, hmisses, foundCount_concat, ← h.found]
    cases o with
    | found sql how =>
      cases how with
      | off => exact absurd rfl (ho sql)
      | hit => exact Nat.add_right_comm _ _ _
      | miss => rfl
    | refused sql error => rfl
    | cleared => rfl

/-- One call carries the record on. -/
theorem step (h : Recorded n outcomes db) (hn : 1 ≤ n) (e : Engine σ S) (call : CacheCall) :
    Recorded n (outcomes ++ [(call.run e db).1]) (call.run e db).2 := by
  cases call with
  | clear => exact h.concat nofun rfl (.clear _) rfl rfl
  | lookUp sql =>
    by_cases hsql : sql ∈ db.cache.recency
    · obtain ⟨stmt, hrun⟩ := h.runOn_cached_of_mem hsql
      rw [CacheCall.run, hrun e]
      exact h.concat nofun rfl (h.retains.used hsql) rfl rfl
    · rcases hprepare : e.prepare sql db.connection.engine with ⟨fault | stmt, s⟩
      · rw [CacheCall.run, runOn_cached_refused e (h.getElem?_eq_none hsql) hprepare]
        exact h.concat nofun rfl h.retains rfl rfl
      · rw [CacheCall.run, h.runOn_cached_of_notMem hn hsql hprepare]
        exact h.concat nofun rfl (h.retains.add hsql stmt) rfl rfl

/-- And so does any sequence of calls. -/
theorem history (h : Recorded n outcomes db) (hn : 1 ≤ n) (e : Engine σ S)
    (calls : List CacheCall) :
    Recorded n (outcomes ++ (CacheCall.history e calls db).1)
      (CacheCall.history e calls db).2 := by
  induction calls generalizing outcomes db with
  | nil => rwa [CacheCall.history, List.append_nil]
  | cons call calls ih =>
    rw [CacheCall.history, List.append_cons]
    exact ih (h.step hn e call)

/-- On an engine that prepares a text in every state or in none, what a call comes to is told by
the calls before it. -/
theorem outcome_eq (h : Recorded n outcomes db) (hn : 1 ≤ n) {e : Engine σ S}
    {compile : String → Except EngineFault S} (he : ∀ sql s, (e.prepare sql s).1 = compile sql)
    (call : CacheCall) : (call.run e db).1 = call.foretold n compile outcomes := by
  have hrecency : db.cache.recency = retained n (uses outcomes) := h.capacity ▸ h.retains.recency
  cases call with
  | clear => rfl
  | lookUp sql =>
    rw [CacheCall.foretold, ← hrecency]
    split
    · next hsql =>
      obtain ⟨stmt, hrun⟩ := h.runOn_cached_of_mem hsql
      rw [CacheCall.run, hrun e]
    · next hsql =>
      have hcompile := he sql db.connection.engine
      rcases hprepare : e.prepare sql db.connection.engine with ⟨fault | stmt, s⟩
      · rw [CacheCall.run, runOn_cached_refused e (h.getElem?_eq_none hsql) hprepare, ← hcompile,
          hprepare]
      · rw [CacheCall.run, h.runOn_cached_of_notMem hn hsql hprepare, ← hcompile, hprepare]

theorem outcomes_eq (h : Recorded n outcomes db) (hn : 1 ≤ n) {e : Engine σ S}
    {compile : String → Except EngineFault S} (he : ∀ sql s, (e.prepare sql s).1 = compile sql)
    (calls : List CacheCall) :
    (CacheCall.history e calls db).1 = CacheCall.foretoldAll n compile outcomes calls := by
  induction calls generalizing outcomes db with
  | nil => rfl
  | cons call calls ih =>
    rw [CacheCall.history, CacheCall.foretoldAll, ← h.outcome_eq hn he call]
    exact congrArg _ (ih (h.step hn e call))

end Recorded

/-! ## Top theorem -/

/-- What a cache of capacity `n` owes to those who look up and clear, after calls that came
to `outcomes`, and at the next lookup. -/
structure FollowsUses (e : Engine σ S) (n : Nat) (outcomes : List CacheOutcome)
    (db : Database σ S) : Prop where
  /-- the queue goes from the least to the most recently used -/
  recency : db.cache.recency = retained n (uses outcomes)
  length : db.cache.recency.length = min n (uses outcomes).dedup.length
  nodup : db.cache.recency.Nodup
  keys : ∀ sql, sql ∈ db.cache.prepared ↔ sql ∈ db.cache.recency
  size_le : db.cache.size ≤ n
  hits : db.cache.hits = countBy .hit outcomes
  misses : db.cache.misses = countBy .miss outcomes
  found : db.cache.hits + db.cache.misses = foundCount outcomes
  /-- a text that is held is found without the engine, whichever engine it is -/
  hit : ∀ sql ∈ db.cache.recency, ∃ stmt, ∀ e' : Engine σ S, (cached e' sql).runOn db =
    (.ok (stmt, .hit), { db with cache := db.cache.used sql })
  /-- another one is prepared -/
  miss : ∀ sql ∉ db.cache.recency, ∀ stmt s,
    e.prepare sql db.connection.engine = (.ok stmt, s) →
      ∃ db', (cached e sql).runOn db = (.ok (stmt, .miss), db') ∧ db'.connection.engine = s
  /-- or refused, which changes the engine's state at most -/
  refused : ∀ sql ∉ db.cache.recency, ∀ fault s,
    e.prepare sql db.connection.engine = (.error fault, s) →
      (cached e sql).runOn db = (.error (.ofEngine fault), db.moved s)

theorem Recorded.followsUses {n : Nat} {outcomes : List CacheOutcome} {db : Database σ S}
    (h : Recorded n outcomes db) (hn : 1 ≤ n) (e : Engine σ S) :
    FollowsUses e n outcomes db where
  recency := h.capacity ▸ h.retains.recency
  length := by rw [h.retains.recency, length_retained, h.capacity]
  nodup := h.retains.tracks.nodup
  keys := fun sql => h.retains.mem_iff
  size_le := by
    rw [StatementCache.size, h.retains.tracks.size_eq]
    exact h.capacity ▸ h.retains.length_le
  hits := h.hits
  misses := h.misses
  found := h.found
  hit := fun sql hsql => h.runOn_cached_of_mem hsql
  miss := fun sql hsql stmt s hprepare =>
    ⟨_, h.runOn_cached_of_notMem hn hsql hprepare, rfl⟩
  refused := fun sql hsql fault s hprepare =>
    runOn_cached_refused e (h.getElem?_eq_none hsql) hprepare

/-- **The cache holds what was used last.**  On a new cache that can hold a statement at all,
any lookups and clearings leave the last of the texts found since the last clearing, by
their last use, and no more than the capacity; a lookup is a hit for these alone and then
leaves the engine alone; a refusal leaves the cache alone; and both counts are those of the
lookups as they were reported, cleared or not. -/
theorem cache_follows_uses (e : Engine σ S) (config : Config) (connection : Connection σ)
    (calls : List CacheCall) (hn : 1 ≤ config.cacheCapacity) :
    FollowsUses e config.cacheCapacity
      (CacheCall.history e calls (.open config connection)).1
      (CacheCall.history e calls (.open config connection)).2 :=
  ((Recorded.opened config connection).history hn e calls).followsUses hn e

/-- Calls to a cache of one statement: the selection takes the place of the insertion, and the
insertion that of the selection. -/
def sheetCalls : List CacheCall :=
  [.lookUp Sheet.Stmt.insertion.text, .lookUp Sheet.Stmt.insertion.text, .lookUp "SELEC",
    .lookUp Sheet.Stmt.selection.text, .lookUp Sheet.Stmt.insertion.text, .clear,
    .lookUp Sheet.Stmt.insertion.text]

def sheetOutcomes : List CacheOutcome :=
  [.found Sheet.Stmt.insertion.text .miss, .found Sheet.Stmt.insertion.text .hit,
    .refused "SELEC" (.query "syntax error"), .found Sheet.Stmt.selection.text .miss,
    .found Sheet.Stmt.insertion.text .miss, .cleared, .found Sheet.Stmt.insertion.text .miss]

/-- One of five lookups of a known text is a hit.  The insertion is what is held in the end, and
the selection is not. -/
theorem cache_follows_uses_sheet :
    1 ≤ (Config.new.apply (.statementCache 1)).cacheCapacity ∧
    ∃ db : Database Sheet Sheet.Stmt,
      CacheCall.history Sheet.engine sheetCalls
        (.open (Config.new.apply (.statementCache 1)) ⟨.empty, []⟩) = (sheetOutcomes, db) ∧
      db.cache.recency = [Sheet.Stmt.insertion.text] ∧
      db.cache.hits = 1 ∧ db.cache.misses = 4 ∧
      (∃ stmt, (cached Sheet.engine Sheet.Stmt.insertion.text).runOn db =
        (.ok (stmt, .hit), { db with cache := db.cache.used Sheet.Stmt.insertion.text })) ∧
      ∃ db', (cached Sheet.engine Sheet.Stmt.selection.text).runOn db =
        (.ok (.selection, .miss), db') ∧ db'.connection.engine = db.connection.engine := by
  have hn : 1 ≤ (Config.new.apply (.statementCache 1)).cacheCapacity := by decide
  have h := cache_follows_uses Sheet.engine (Config.new.apply (.statementCache 1)) ⟨.empty, []⟩
    sheetCalls hn
  have hforetold : CacheCall.foretoldAll 1 Sheet.compile [] sheetCalls = sheetOutcomes := by decide
  have houtcomes := ((Recorded.opened (Config.new.apply (.statementCache 1))
    ⟨Sheet.empty, []⟩).outcomes_eq hn (e := Sheet.engine) (fun _ _ => rfl) sheetCalls).trans
      hforetold
  rw [houtcomes] at h
  have hrecency := h.recency.trans (show _ = [Sheet.Stmt.insertion.text] by decide)
  obtain ⟨stmt, hhit⟩ := h.hit _ (hrecency ▸ List.mem_singleton_self _)
  have hmissing : Sheet.Stmt.selection.text ∉ [Sheet.Stmt.insertion.text] := by decide
  exact ⟨hn, _, Prod.ext houtcomes rfl, hrecency, h.hits.trans (by decide),
    h.misses.trans (by decide), ⟨stmt, hhit Sheet.engine⟩,
    h.miss _ (hrecency ▸ hmissing) .selection _ rfl⟩

end TypedSql
