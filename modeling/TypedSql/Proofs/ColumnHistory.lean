import TypedSql.Proofs.ColumnWrites
import TypedSql.Query.Delete
import TypedSql.Query.Select
import TypedSql.Query.Update

/-!
# The history of a column map

What is done to a map comes down to events: a column is written, or it is removed.  A write
stands as long as its column is not removed after it, and the map is what the standing writes
make:

    ofEdits pairs edits = ofList (standing (history pairs edits))         (ofEdits_eq_ofList)

So a column holds its last standing write, and its place is that of its first standing write.

Merging puts the later writes behind the earlier ones.  It is a monoid in which every map is
idempotent, and to merge what writes make is to write them:

    m.merge (ofList writes) = m.insertMany writes                             (merge_ofList)
-/

namespace TypedSql

namespace ColumnMap

variable {α : Type}

/-! ## Histories -/

/-- One thing that is done to a map. -/
inductive Edit (α : Type) where
  | insert (column : String) (value : α)
  | merge (n : ColumnMap α)
  | remove (column : String)

def apply (m : ColumnMap α) : Edit α → ColumnMap α
  | .insert column value => m.insert column value
  | .merge n => m.merge n
  | .remove column => (m.remove column).2

/-- The map that is collected from pairs and then edited. -/
def ofEdits (pairs : List (String × α)) (edits : List (Edit α)) : ColumnMap α :=
  edits.foldl apply (ofList pairs)

inductive Event (α : Type) where
  | write (column : String) (value : α)
  | removal (column : String)

namespace Event

def ofWrite (w : String × α) : Event α := write w.1 w.2

def removes (column : String) : Event α → Bool
  | write .. => false
  | removal c => c == column

end Event

/-- A merge writes the entries of the other map, one after the other. -/
def Edit.events : Edit α → List (Event α)
  | insert column value => [.write column value]
  | merge n => n.entries.map .ofWrite
  | remove column => [.removal column]

def history (pairs : List (String × α)) (edits : List (Edit α)) : List (Event α) :=
  pairs.map .ofWrite ++ edits.flatMap Edit.events

/-- The writes of a column since its last removal. -/
def standing : List (Event α) → List (String × α)
  | [] => []
  | .write c v :: later => if later.any (Event.removes c) then standing later
    else (c, v) :: standing later
  | .removal _ :: later => standing later

/-- The map holds what the events have left. -/
structure Follows (m : ColumnMap α) (events : List (Event α)) : Prop where
  nodup : m.columns.Nodup
  get?_eq : ∀ column, m.get? column = (standing events).reverse.lookup column
  columns_eq : m.columns = ((standing events).map Prod.fst).eraseDups
  remove_fst : ∀ column, (m.remove column).1 = (standing events).reverse.lookup column
  remove_snd : ∀ column, (m.remove column).2.entries = m.entries.filter fun e => e.1 != column

/-! ## Removals -/

/-- Leaving out a column and writing another one can be done in either order. -/
theorem filter_setEntry (column c : String) (v : α) (entries : List (String × α)) :
    (setEntry c v entries).filter (fun e => e.1 != column) =
      if c = column then entries.filter fun e => e.1 != column
      else setEntry c v (entries.filter fun e => e.1 != column) := by
  induction entries with
  | nil => by_cases h : c = column <;> simp [setEntry, h]
  | cons e rest ih =>
    obtain ⟨k, w⟩ := e
    by_cases hk : k = c
    · subst hk
      by_cases h : k = column <;> simp [setEntry, h]
    · rw [setEntry, if_neg hk, List.filter_cons, ih, List.filter_cons]
      by_cases h : c = column
      · simp [h]
      · by_cases hkc : k = column <;> simp [h, hkc, setEntry, hk]

/-- There is one entry of a column at most, so taking out the first takes out all. -/
theorem eraseP_eq_filter {column : String} {entries : List (String × α)}
    (h : (entries.map Prod.fst).Nodup) :
    (entries.eraseP fun e => e.1 == column) = entries.filter fun e => e.1 != column := by
  induction entries with
  | nil => rfl
  | cons e rest ih =>
    obtain ⟨hnew, hrest⟩ := List.nodup_cons.1 h
    by_cases he : e.1 = column
    · have hall : ∀ e' ∈ rest, (e'.1 != column) = true := fun e' he' => by
        rw [bne_iff_ne]
        rintro heq
        exact hnew (he.trans heq.symm ▸ List.mem_map_of_mem he')
      rw [List.eraseP_cons_of_pos (by simp [he]), List.filter_cons_of_neg (by simp [he]),
        List.filter_eq_self.2 hall]
    · rw [List.eraseP_cons_of_neg (by simp [he]), List.filter_cons_of_pos (by simp [he]), ih hrest]

theorem remove_eq (m : ColumnMap α) (column : String) :
    m.remove column = (m.get? column, m.erase column) :=
  Prod.ext rfl (ext (eraseP_eq_filter m.nodup))

theorem erase_insert (m : ColumnMap α) (column c : String) (v : α) :
    (m.insert c v).erase column =
      if c = column then m.erase column else (m.erase column).insert c v := by
  have h := filter_setEntry column c v m.entries
  split
  · next hc => exact ext (h.trans (if_pos hc))
  · next hc => exact ext (h.trans (if_neg hc))

/-- To remove a column is to leave out its writes. -/
theorem erase_ofList (column : String) (writes : List (String × α)) :
    (ofList writes).erase column = ofList (writes.filter fun w => w.1 != column) := by
  induction writes using List.reverseRecOn with
  | nil => rfl
  | append_singleton writes w ih =>
    rw [ofList_concat, erase_insert, ih, List.filter_append]
    by_cases h : w.1 = column
    · simp [h]
    · simp [h, ofList_concat]

/-! ## Standing writes -/

theorem standing_concat_write (events : List (Event α)) (c : String) (v : α) :
    standing (events ++ [.write c v]) = standing events ++ [(c, v)] := by
  induction events with
  | nil => rfl
  | cons e later ih =>
    cases e with
    | removal c' => exact ih
    | write c' v' =>
      have hany : (later ++ [Event.write c v]).any (Event.removes c') =
          later.any (Event.removes c') := by
        simp [Event.removes]
      rw [List.cons_append, standing, standing, hany, ih]
      split <;> rfl

theorem standing_concat_removal (events : List (Event α)) (c : String) :
    standing (events ++ [.removal c]) = (standing events).filter fun w => w.1 != c := by
  induction events with
  | nil => rfl
  | cons e later ih =>
    cases e with
    | removal c' => exact ih
    | write c' v' =>
      rw [List.cons_append, standing, standing, ih, List.any_append]
      by_cases hlater : later.any (Event.removes c') = true
      · simp [hlater]
      · by_cases hc : c = c'
        · simp [hlater, hc, Event.removes]
        · simp [hlater, hc, Event.removes, Ne.symm hc]

/-! ## What a map comes to -/

/-- What one event does. -/
def applyEvent (m : ColumnMap α) : Event α → ColumnMap α
  | .write column value => m.insert column value
  | .removal column => m.erase column

theorem apply_eq_foldl (m : ColumnMap α) (e : Edit α) :
    m.apply e = e.events.foldl applyEvent m := by
  cases e with
  | insert column value => rfl
  | remove column => exact congrArg Prod.snd (m.remove_eq column)
  | merge n =>
    rw [Edit.events, List.foldl_map]
    rfl

theorem foldl_applyEvent (events : List (Event α)) :
    events.foldl applyEvent empty = ofList (standing events) := by
  induction events using List.reverseRecOn with
  | nil => rfl
  | append_singleton events e ih =>
    rw [List.foldl_append, ih]
    cases e with
    | write c v =>
      rw [standing_concat_write, ofList_concat]
      rfl
    | removal c =>
      rw [standing_concat_removal, ← erase_ofList]
      rfl

/-- A map is what its standing writes make. -/
theorem ofEdits_eq_ofList (pairs : List (String × α)) (edits : List (Edit α)) :
    ofEdits pairs edits = ofList (standing (history pairs edits)) := by
  have hpairs : ofList pairs = (pairs.map Event.ofWrite).foldl applyEvent empty := by
    rw [List.foldl_map]
    rfl
  have hedits (m : ColumnMap α) :
      edits.foldl apply m = (edits.flatMap Edit.events).foldl applyEvent m := by
    rw [List.foldl_flatMap]
    exact congrArg (fun f => edits.foldl f m) (funext fun m => funext m.apply_eq_foldl)
  rw [← foldl_applyEvent, history, List.foldl_append, ← hpairs, ofEdits, hedits]

theorem follows_ofEdits (pairs : List (String × α)) (edits : List (Edit α)) :
    (ofEdits pairs edits).Follows (history pairs edits) := by
  have hget (column : String) : (ofEdits pairs edits).get? column =
      (standing (history pairs edits)).reverse.lookup column := by
    rw [ofEdits_eq_ofList, get?_ofList]
  exact {
    nodup := (ofEdits pairs edits).nodup
    get?_eq := hget
    columns_eq := by rw [ofEdits_eq_ofList, columns_ofList]
    remove_fst := hget
    remove_snd := fun column => eraseP_eq_filter (ofEdits pairs edits).nodup }

/-! ## Merging -/

theorem ext_of_get? {m n : ColumnMap α} (hcolumns : m.columns = n.columns)
    (hget : ∀ column, m.get? column = n.get? column) : m = n := by
  have hentries : ∀ es fs : List (String × α), (es.map Prod.fst).Nodup →
      es.map Prod.fst = fs.map Prod.fst → (∀ c, es.lookup c = fs.lookup c) → es = fs := by
    intro es
    induction es with
    | nil => exact fun fs _ hkeys _ => (List.map_eq_nil_iff.1 hkeys.symm).symm
    | cons e es ih =>
      rintro (_ | ⟨f, fs⟩) hnodup hkeys hlookup
      · cases hkeys
      · obtain ⟨hnew, hnodup⟩ := List.nodup_cons.1 hnodup
        obtain ⟨hkey, hkeys⟩ := List.cons.inj hkeys
        have hvalue := hlookup e.1
        rw [List.lookup_cons, List.lookup_cons, hkey, beq_self_eq_true] at hvalue
        have hrest : es = fs := ih fs hnodup hkeys fun c => by
          have hc := hlookup c
          rw [List.lookup_cons, List.lookup_cons, hkey] at hc
          by_cases h : c = f.1
          · -- neither rest has the column of its head
            subst h
            rw [lookup_eq_none_iff.2 (hkey ▸ hnew), lookup_eq_none_iff.2 (hkeys ▸ hkey ▸ hnew)]
          · rwa [beq_false_of_ne h] at hc
        rw [hrest, Prod.ext hkey (Option.some.inj hvalue)]
  exact ext (hentries m.entries n.entries m.nodup hcolumns hget)

/-- The columns keep their places, and the new ones of the other map come after them. -/
theorem columns_merge (m n : ColumnMap α) :
    (m.merge n).columns = m.columns ++ n.columns.filter (· ∉ m.columns) := by
  have hnodup : (n.columns.filter (· ∉ m.columns)).Nodup := n.nodup.sublist List.filter_sublist
  rw [columns, merge, entries_insertMany, keys_setEntries]
  exact congrArg _ (eraseDups_of_nodup hnodup)

theorem get?_merge (m n : ColumnMap α) (column : String) :
    (m.merge n).get? column = (n.get? column).or (m.get? column) := by
  rw [get?, merge, entries_insertMany, lookup_setEntries, lookup_reverse_entries]
  rfl

theorem merge_insert (m n : ColumnMap α) (c : String) (v : α) :
    m.merge (n.insert c v) = (m.merge n).insert c v := by
  refine ext_of_get? ?_ fun column => ?_
  · rw [columns_insert, columns_merge, columns_merge, columns_insert]
    by_cases hn : c ∈ n.columns
    · by_cases hm : c ∈ m.columns <;> simp [hn, hm]
    · by_cases hm : c ∈ m.columns <;> simp [hn, hm]
  · rw [get?_insert, get?_merge, get?_merge, get?_insert]
    split
    · rfl
    · rfl

/-- To merge what writes make is to write them. -/
theorem merge_ofList (m : ColumnMap α) (writes : List (String × α)) :
    m.merge (ofList writes) = m.insertMany writes := by
  induction writes using List.reverseRecOn with
  | nil => rfl
  | append_singleton writes w ih => rw [ofList_concat, merge_insert, ih, insertMany_concat]

theorem ofList_entries (m : ColumnMap α) : ofList m.entries = m :=
  ext (entries_ofList_of_nodup m.nodup)

theorem ofList_append (writes writes' : List (String × α)) :
    ofList (writes ++ writes') = (ofList writes).merge (ofList writes') := by
  rw [merge_ofList]
  exact empty.insertMany_append writes writes'

theorem merge_assoc (a b c : ColumnMap α) : (a.merge b).merge c = a.merge (b.merge c) := by
  have hwrites : b.merge c = ofList (b.entries ++ c.entries) := by
    rw [ofList_append_entries, ofList_entries]
  rw [hwrites, merge_ofList, insertMany_append]
  rfl

theorem empty_merge (m : ColumnMap α) : empty.merge m = m := ofList_entries m

theorem merge_empty (m : ColumnMap α) : m.merge empty = m := rfl

theorem merge_self (m : ColumnMap α) : m.merge m = m := by
  refine ext_of_get? ?_ fun column => ?_
  · rw [columns_merge, List.filter_eq_nil_iff.2 fun c hc => by simpa using hc, List.append_nil]
  · rw [get?_merge, Option.or_self]

end ColumnMap

/-! ## Merging in builders -/

theorem Scope.apply_andWhere_andWhere (s : Scope) (a b : Conditions) :
    (s.apply (.andWhere a)).apply (.andWhere b) = s.apply (.andWhere (a.merge b)) := by
  rw [apply, apply, apply, Filter.andWhere, Filter.andWhere, Filter.andWhere,
    ColumnMap.merge_assoc]

/-! ## Top theorem -/

/-- **A column map follows its history.**  Whatever was done to a map, no column occurs twice, a
column holds the last of its writes since its last removal, the columns are in the order of the
first such writes, and a removal gives what the column holds and leaves the other entries in
their order.  Merging mappings is a monoid in which every mapping is idempotent, and pairs can be
collected in parts and merged; so a builder that is given two mappings one after the other is
the builder that is given them merged. -/
theorem column_maps_follow_history :
    (∀ (α : Type) (pairs : List (String × α)) (edits : List (ColumnMap.Edit α)),
      (ColumnMap.ofEdits pairs edits).Follows (ColumnMap.history pairs edits)) ∧
    (∀ a b c : Conditions,
      (a.merge b).merge c = a.merge (b.merge c) ∧
      ColumnMap.merge ∅ a = a ∧ a.merge ∅ = a ∧ a.merge a = a) ∧
    (∀ xs ys : List (String × Constraint),
      (ColumnMap.ofList (xs ++ ys) : Conditions) = (ColumnMap.ofList xs).merge (.ofList ys)) ∧
    ∀ a b : Conditions,
      (∀ q : Select,
        (q.apply (.scope (.andWhere a))).apply (.scope (.andWhere b)) =
            q.apply (.scope (.andWhere (a.merge b))) ∧
          (q.apply (.having a)).apply (.having b) = q.apply (.having (a.merge b))) ∧
      (∀ q : Update, (q.apply (.scope (.andWhere a))).apply (.scope (.andWhere b)) =
        q.apply (.scope (.andWhere (a.merge b)))) ∧
      ∀ q : Delete, (q.apply (.andWhere a)).apply (.andWhere b) =
        q.apply (.andWhere (a.merge b)) := by
  refine ⟨fun α => ColumnMap.follows_ofEdits, fun a b c => ?_, ColumnMap.ofList_append,
    fun a b => ?_⟩
  · exact ⟨a.merge_assoc b c, a.empty_merge, a.merge_empty, a.merge_self⟩
  · refine ⟨fun q => ⟨?_, ?_⟩, fun q => ?_, fun q => ?_⟩
    · rw [Select.apply, Select.apply, Select.apply, Scope.apply_andWhere_andWhere]
    · rw [Select.apply, Select.apply, Select.apply, ColumnMap.merge_assoc]
    · rw [Update.apply, Update.apply, Update.apply, Scope.apply_andWhere_andWhere]
    · rw [Delete.apply, Delete.apply, Delete.apply, Scope.apply_andWhere_andWhere]

/-- A column that is removed loses its place. -/
example : (ColumnMap.ofEdits [("a", 1), ("b", 2)]
    [.remove "a", .insert "a" 3, .insert "b" 4]).entries = [("b", 4), ("a", 3)] := by
  decide

end TypedSql
