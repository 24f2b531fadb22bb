import Mathlib.Data.List.Dedup
import Mathlib.Data.List.DropRight
import TypedSql.Session.StatementCache

/-!
# What the statement cache retains

Of the texts that were used, in the order of their last use, the cache retains the last
`n`, its capacity:

    retained n uses = uses.dedup.rtake n

A further use needs no more than what is retained already,

    retained n (uses ++ [sql]) = ((retained n uses).erase sql ++ [sql]).rtake n
                                                                        (retained_concat)

and this is what a hit and an addition both do to `recency`.  The map and the queue hold
the same texts all along (`Tracks`).
-/

namespace TypedSql

/-! ## Lists of uses -/

/-- The texts by their last use, and of these the last `n`. -/
def retained (n : Nat) (uses : List String) : List String := uses.dedup.rtake n

section Lists

variable {α : Type} [DecidableEq α]

theorem dedup_concat (l : List α) (x : α) : (l ++ [x]).dedup = l.dedup.erase x ++ [x] := by
  induction l with
  | nil => simp
  | cons y l ih =>
    rw [List.cons_append]
    by_cases hy : y ∈ l
    · rw [List.dedup_cons_of_mem (List.mem_append_left _ hy), List.dedup_cons_of_mem hy, ih]
    · by_cases hyx : y = x
      · subst hyx
        rw [List.dedup_cons_of_mem (List.mem_append_right _ List.mem_cons_self), ih,
          List.dedup_cons_of_notMem hy, List.erase_cons_head]
        rw [List.erase_of_not_mem (by simpa using hy)]
      · have hnot : y ∉ l ++ [x] := by simp [hy, hyx]
        rw [List.dedup_cons_of_notMem hnot, ih, List.dedup_cons_of_notMem hy,
          List.erase_cons_tail (by simpa using hyx), List.cons_append]

omit [DecidableEq α] in
theorem rtake_eq_self {n : Nat} {l : List α} (h : l.length ≤ n) : l.rtake n = l := by
  rw [List.rtake, Nat.sub_eq_zero_of_le h, List.drop_zero]

omit [DecidableEq α] in
theorem rtake_append_of_le {n : Nat} {a b : List α} (h : n ≤ b.length) :
    (a ++ b).rtake n = b.rtake n := by
  rw [List.rtake, List.rtake, List.length_append, List.drop_append]
  have hlong : a.length ≤ a.length + b.length - n := by omega
  rw [List.drop_eq_nil_of_le hlong, List.nil_append]
  congr 1
  omega

omit [DecidableEq α] in
theorem length_rtake (n : Nat) (l : List α) : (l.rtake n).length = min n l.length := by
  rw [List.rtake, List.length_drop]
  omega

/-- What is not retained has no part in what is retained after the next use. -/
theorem rtake_erase_concat {l : List α} (hl : l.Nodup) (n : Nat) (x : α) :
    (l.erase x ++ [x]).rtake n = ((l.rtake n).erase x ++ [x]).rtake n := by
  obtain ⟨a, b, hab, hb⟩ : ∃ a b, l = a ++ b ∧ l.rtake n = b :=
    ⟨_, _, (List.take_append_drop (l.length - n) l).symm, rfl⟩
  have hlong : a = [] ∨ b.length = n := by
    have hlen := length_rtake n l
    have hsum := congrArg List.length hab
    rw [hb] at hlen
    rw [List.length_append] at hsum
    rcases Nat.eq_zero_or_pos a.length with h | h
    · exact .inl (List.length_eq_zero_iff.1 h)
    · exact .inr (by omega)
  rw [hb]
  rcases hlong with rfl | hlength
  · rw [hab, List.nil_append]
  · rw [hab] at hl ⊢
    by_cases hx : x ∈ b
    · have hnot : x ∉ a := fun ha => List.disjoint_of_nodup_append hl ha hx
      have hfull : (b.erase x ++ [x]).length = n := by
        rw [List.length_append, List.length_erase_of_mem hx, List.length_singleton, hlength]
        have := List.length_pos_of_mem hx
        omega
      rw [List.erase_append_right _ hnot, List.append_assoc,
        rtake_append_of_le (Nat.le_of_eq hfull.symm)]
    · have hfull : n ≤ (b ++ [x]).length := by
        rw [List.length_append]
        omega
      have hsplit : (a ++ b).erase x = a.erase x ++ b := by
        by_cases ha : x ∈ a
        · exact List.erase_append_left _ ha
        · rw [List.erase_of_not_mem (by simp [ha, hx]), List.erase_of_not_mem ha]
      rw [hsplit, List.append_assoc, rtake_append_of_le hfull, List.erase_of_not_mem hx]

end Lists

theorem retained_concat (n : Nat) (uses : List String) (sql : String) :
    retained n (uses ++ [sql]) = ((retained n uses).erase sql ++ [sql]).rtake n := by
  rw [retained, dedup_concat, rtake_erase_concat (List.nodup_dedup uses), retained]

theorem length_retained (n : Nat) (uses : List String) :
    (retained n uses).length = min n uses.dedup.length :=
  length_rtake n uses.dedup

namespace StatementCache

variable {S : Type}

/-! ## The map and the queue -/

/-- The queue holds the keys of the map, each once. -/
structure Tracks (prepared : Std.HashMap String S) (recency : List String) : Prop where
  nodup : recency.Nodup
  mem_iff : ∀ sql, sql ∈ prepared ↔ sql ∈ recency

namespace Tracks

variable {prepared : Std.HashMap String S} {recency : List String} {sql : String}

theorem empty : Tracks (∅ : Std.HashMap String S) [] where
  nodup := List.nodup_nil
  mem_iff := fun sql => by simp

theorem size_eq (h : Tracks prepared recency) : prepared.size = recency.length := by
  have hperm : prepared.keys.Perm recency :=
    (List.perm_ext_iff_of_nodup Std.HashMap.nodup_keys h.nodup).2 fun sql =>
      Std.HashMap.mem_keys.trans (h.mem_iff sql)
  rw [← Std.HashMap.length_keys, hperm.length_eq]

theorem tail (h : Tracks prepared (sql :: recency)) : Tracks (prepared.erase sql) recency where
  nodup := h.nodup.of_cons
  mem_iff := fun key => by
    have hsql := (List.nodup_cons.1 h.nodup).1
    rw [Std.HashMap.mem_erase, h.mem_iff, List.mem_cons]
    constructor
    · rintro ⟨hne, rfl | hkey⟩
      · simp at hne
      · exact hkey
    · intro hkey
      have hne : sql ≠ key := fun heq => hsql (heq ▸ hkey)
      exact ⟨by simpa using hne, .inr hkey⟩

theorem concat (h : Tracks prepared recency) (hsql : sql ∉ recency) (stmt : S) :
    Tracks (prepared.insert sql stmt) (recency ++ [sql]) where
  nodup := List.nodup_append.2 ⟨h.nodup, List.nodup_singleton sql, by
    rintro key hkey _ hlast rfl
    exact hsql (List.mem_singleton.1 hlast ▸ hkey)⟩
  mem_iff := fun key => by
    rw [Std.HashMap.mem_insert, h.mem_iff, List.mem_append, List.mem_singleton, beq_iff_eq,
      eq_comm, or_comm]

theorem erase_concat (h : Tracks prepared recency) (hsql : sql ∈ recency) :
    Tracks prepared (recency.erase sql ++ [sql]) := by
  have hperm : (recency.erase sql ++ [sql]).Perm recency :=
    (List.perm_append_singleton _ _).trans (List.perm_cons_erase hsql).symm
  exact ⟨hperm.nodup_iff.2 h.nodup, fun key => (h.mem_iff key).trans hperm.mem_iff.symm⟩

end Tracks

/-- What is left after evictions are the last `n`, with their statements. -/
theorem evict_tracks (n : Nat) {prepared : Std.HashMap String S} {recency : List String}
    (h : Tracks prepared recency) :
    (evict n prepared recency).2.1 = recency.rtake n ∧
      Tracks (evict n prepared recency).1 (recency.rtake n) ∧
      ∀ sql ∈ recency.rtake n, (evict n prepared recency).1[sql]? = prepared[sql]? := by
  induction recency generalizing prepared with
  | nil => exact ⟨by simp [evict], by simpa [evict] using h, by simp⟩
  | cons oldest recency ih =>
    rw [evict]
    by_cases hfull : n < prepared.size
    · have hlong : n ≤ recency.length := by
        have := h.size_eq
        rw [List.length_cons] at this
        omega
      have hrtake : (oldest :: recency).rtake n = recency.rtake n :=
        rtake_append_of_le (a := [oldest]) hlong
      obtain ⟨hqueue, htracks, hstmt⟩ := ih h.tail
      rw [if_pos hfull, hrtake]
      refine ⟨hqueue, htracks, fun sql hsql => ?_⟩
      have hmem : sql ∈ recency := (List.drop_sublist _ _).subset hsql
      have hne : oldest ≠ sql := fun heq => (List.nodup_cons.1 h.nodup).1 (heq ▸ hmem)
      rw [hstmt sql hsql, Std.HashMap.getElem?_erase, if_neg (by simpa using hne)]
    · have hshort : (oldest :: recency).length ≤ n := by
        have := h.size_eq
        omega
      rw [if_neg hfull, rtake_eq_self hshort]
      exact ⟨rfl, h, fun _ _ => rfl⟩

theorem getElem?_of_evict {n : Nat} {prepared : Std.HashMap String S} {recency : List String}
    {sql : String} {stmt : S} (h : (evict n prepared recency).1[sql]? = some stmt) :
    prepared[sql]? = some stmt := by
  induction recency generalizing prepared with
  | nil => exact h
  | cons text recency ih =>
    rw [evict] at h
    split at h
    · have herased := ih h
      rw [Std.HashMap.getElem?_erase] at herased
      split at herased
      · cases herased
      · exact herased
    · exact h

/-! ## Hits and additions -/

variable {c : StatementCache S} {uses : List String} {sql : String}

/-- A statement that is held after an addition is the one added or was held before it. -/
theorem held_of_add {stmt held : S} {key : String}
    (h : (c.add sql stmt).1.prepared[key]? = some held) :
    (key = sql ∧ held = stmt) ∨ c.prepared[key]? = some held := by
  have hinserted : (c.prepared.insert sql stmt)[key]? = some held := getElem?_of_evict h
  rw [Std.HashMap.getElem?_insert] at hinserted
  split at hinserted
  · next hkey => exact .inl ⟨(eq_of_beq hkey).symm, (Option.some.inj hinserted).symm⟩
  · exact .inr hinserted

/-- The cache after the uses of `uses`. -/
structure Retains (c : StatementCache S) (uses : List String) : Prop where
  recency : c.recency = retained c.capacity uses
  tracks : Tracks c.prepared c.recency

/-- The cache after a use of a statement that it holds. -/
def used (c : StatementCache S) (sql : String) : StatementCache S :=
  { c with hits := c.hits + 1, recency := touch sql c.recency }

theorem hit?_eq (c : StatementCache S) (sql : String) :
    c.hit? sql = (c.prepared[sql]?).map fun stmt => (stmt, c.used sql) := rfl

theorem Retains.new (n : Nat) : Retains (.new n : StatementCache S) [] :=
  ⟨by simp [StatementCache.new, retained], .empty⟩

theorem Retains.clear (c : StatementCache S) : Retains c.clear [] :=
  ⟨by simp [StatementCache.clear, retained], .empty⟩

theorem Retains.mem_iff (h : Retains c uses) : sql ∈ c.prepared ↔ sql ∈ c.recency :=
  h.tracks.mem_iff sql

theorem Retains.length_le (h : Retains c uses) : c.recency.length ≤ c.capacity := by
  rw [h.recency, length_retained]
  exact Nat.min_le_left _ _

theorem Retains.used (h : Retains c uses) (hsql : sql ∈ c.recency) :
    Retains (c.used sql) (uses ++ [sql]) := by
  have hshort : (c.recency.erase sql ++ [sql]).length ≤ c.capacity := by
    have := List.length_pos_of_mem hsql
    have := h.length_le
    rw [List.length_append, List.length_erase_of_mem hsql, List.length_singleton]
    omega
  have hrecency : (c.used sql).recency = c.recency.erase sql ++ [sql] := if_pos hsql
  refine ⟨?_, hrecency ▸ h.tracks.erase_concat hsql⟩
  rw [hrecency]
  show _ = retained c.capacity (uses ++ [sql])
  rw [retained_concat, ← h.recency, rtake_eq_self hshort]

theorem Retains.add (h : Retains c uses) (hsql : sql ∉ c.recency) (stmt : S) :
    Retains (c.add sql stmt).1 (uses ++ [sql]) := by
  obtain ⟨hqueue, htracks, -⟩ := evict_tracks c.capacity (h.tracks.concat hsql stmt)
  have hrecency : (c.add sql stmt).1.recency = (c.recency ++ [sql]).rtake c.capacity := hqueue
  refine ⟨?_, hrecency ▸ htracks⟩
  rw [hrecency]
  show _ = retained c.capacity (uses ++ [sql])
  rw [retained_concat, ← h.recency, List.erase_of_not_mem hsql]

theorem Retains.getElem?_add (h : Retains c uses) (hsql : sql ∉ c.recency) (stmt : S)
    {key : String} (hkey : key ∈ (c.add sql stmt).1.recency) :
    (c.add sql stmt).1.prepared[key]? = (c.prepared.insert sql stmt)[key]? := by
  obtain ⟨hqueue, -, hstmt⟩ := evict_tracks c.capacity (h.tracks.concat hsql stmt)
  have hrecency : (c.add sql stmt).1.recency = (c.recency ++ [sql]).rtake c.capacity := hqueue
  exact hstmt key (hrecency ▸ hkey)

/-- A cache that can hold anything holds what was added last. -/
theorem Retains.getElem?_add_self (h : Retains c uses) (hsql : sql ∉ c.recency)
    (hc : 0 < c.capacity) (stmt : S) : (c.add sql stmt).1.prepared[sql]? = some stmt := by
  have hlast : sql ∈ (c.add sql stmt).1.recency := by
    have hretains := h.add hsql stmt
    have hcapacity : (c.add sql stmt).1.capacity = c.capacity := rfl
    obtain ⟨n, hn⟩ := Nat.exists_eq_succ_of_ne_zero hc.ne'
    rw [hretains.recency, hcapacity, retained_concat, hn, List.rtake_concat_succ]
    exact List.mem_append_right _ List.mem_cons_self
  rw [h.getElem?_add hsql stmt hlast, Std.HashMap.getElem?_insert_self]

end StatementCache

end TypedSql
