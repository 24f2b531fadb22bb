import Mathlib.Data.List.Induction
import Mathlib.Data.List.Sort
import TypedSql.Proofs.KeyStatements

/-!
# Operators keep their last payloads

Operators on a column are set one after the other, by a setter of their own or by `set`.  Every
operator has a slot, and a slot holds what was put into it last:

    (os.set op).inSlot? n = if n = op.slot then some op else os.inSlot? n          (inSlot?_set)
    (ofSetters calls).inSlot? n = lastIn (calls.map Setter.op) n             (inSlot?_ofSetters)

There are twelve slots, and operators are their contents from the first to the last
(`toList_eq_filterMap`).  So the order of the calls matters within a slot only, and what is
written of the column is one atom for each operator that was set.
-/

namespace TypedSql

/-- What an operator says of a column. -/
def Op.text (column : String) : Op → String
  | eq _ => column ++ " = ?"
  | ne _ => column ++ " != ?"
  | gt _ => column ++ " > ?"
  | gte _ => column ++ " >= ?"
  | lt _ => column ++ " < ?"
  | lte _ => column ++ " <= ?"
  | like _ => column ++ " LIKE ?"
  | notLike _ => column ++ " NOT LIKE ?"
  | oneOf [] => "1=0"
  | oneOf vs => column ++ " IN (" ++ ", ".intercalate (vs.map fun _ => "?") ++ ")"
  | noneOf [] => "1=1"
  | noneOf vs => column ++ " NOT IN (" ++ ", ".intercalate (vs.map fun _ => "?") ++ ")"
  | between _ _ => column ++ " BETWEEN ? AND ?"
  | isNull true => column ++ " IS NULL"
  | isNull false => column ++ " IS NOT NULL"

namespace Operators

/-! ## Calls -/

/-- A call that sets one operator: the operator's own setter, or the one for all. -/
inductive Setter : Type 1 where
  | eq {α : Type} [ToValue α] (v : α)
  | ne {α : Type} [ToValue α] (v : α)
  | gt {α : Type} [ToValue α] (v : α)
  | gte {α : Type} [ToValue α] (v : α)
  | lt {α : Type} [ToValue α] (v : α)
  | lte {α : Type} [ToValue α] (v : α)
  | like (pattern : String)
  | notLike (pattern : String)
  | oneOf {α : Type} [ToValue α] (values : List α)
  | noneOf {α : Type} [ToValue α] (values : List α)
  | between {α : Type} [ToValue α] (low high : α)
  | isNull (b : Bool)
  | set (op : Op)

namespace Setter

def apply (os : Operators) : Setter → Operators
  | eq v => os.eq v
  | ne v => os.ne v
  | gt v => os.gt v
  | gte v => os.gte v
  | lt v => os.lt v
  | lte v => os.lte v
  | like pattern => os.like pattern
  | notLike pattern => os.notLike pattern
  | oneOf values => os.oneOf values
  | noneOf values => os.noneOf values
  | between low high => os.between low high
  | isNull b => os.isNull b
  | set op => os.set op

/-- The operator that the call sets, with its payload. -/
def op : Setter → Op
  | eq v => .eq (toValue v)
  | ne v => .ne (toValue v)
  | gt v => .gt (toValue v)
  | gte v => .gte (toValue v)
  | lt v => .lt (toValue v)
  | lte v => .lte (toValue v)
  | like pattern => .like (.text pattern)
  | notLike pattern => .notLike (.text pattern)
  | oneOf values => .oneOf (values.map toValue)
  | noneOf values => .noneOf (values.map toValue)
  | between low high => .between (toValue low) (toValue high)
  | isNull b => .isNull b
  | set op => op

theorem apply_eq_set (os : Operators) (s : Setter) : s.apply os = os.set s.op := by
  cases s <;> rfl

end Setter

def ofSetters (calls : List Setter) : Operators := calls.foldl Setter.apply ∅

/-- The last of the operators that belongs into a slot. -/
def lastIn (ops : List Op) (n : Nat) : Option Op := ops.reverse.find? fun op => op.slot = n

/-! ## Slots -/

def inSlot? (os : Operators) (n : Nat) : Option Op := os.toList.find? fun op => op.slot = n

/-- Setting an operator fills its slot and no other. -/
theorem inSlot?_set (os : Operators) (op : Op) (n : Nat) :
    (os.set op).inSlot? n = if op.slot = n then some op else os.inSlot? n := by
  show (setOp op os.toList).find? _ = if op.slot = n then some op else os.toList.find? _
  induction os.toList with
  | nil => by_cases h : op.slot = n <;> simp [setOp, h]
  | cons o rest ih =>
    rw [setOp]
    split
    · by_cases h : op.slot = n <;> simp [h]
    · split
      · next heq => by_cases h : op.slot = n <;> simp [← heq, h]
      · next hne =>
        rw [List.find?_cons, ih, List.find?_cons]
        by_cases h : o.slot = n
        · have hop : ¬ op.slot = n := h ▸ hne
          simp [h, hop]
        · simp [h]

/-- No two operators share a slot. -/
theorem eq_of_slot_eq {os : Operators} {o op : Op} (ho : o ∈ os.toList) (hop : op ∈ os.toList)
    (h : o.slot = op.slot) : o = op := by
  have hnodup : (os.toList.map Op.slot).Nodup :=
    List.pairwise_map.2 (os.sorted.imp fun hlt => Nat.ne_of_lt hlt)
  exact List.inj_on_of_nodup_map hnodup ho hop h

theorem inSlot?_eq_some_iff (os : Operators) (n : Nat) (op : Op) :
    os.inSlot? n = some op ↔ op ∈ os.toList ∧ op.slot = n := by
  constructor
  · intro h
    exact ⟨List.mem_of_find?_eq_some h, by simpa using List.find?_some h⟩
  · rintro ⟨hmem, hslot⟩
    cases ho : os.inSlot? n with
    | none =>
      have hnone := List.find?_eq_none.1 ho op hmem
      exact absurd hslot (by simpa using hnone)
    | some o =>
      have hoslot : o.slot = n := by simpa using List.find?_some ho
      rw [eq_of_slot_eq (List.mem_of_find?_eq_some ho) hmem (hoslot.trans hslot.symm)]

/-- Lists in slot order are equal if they hold the same operators. -/
theorem eq_of_sorted {l l' : List Op} (h : l.Pairwise fun a b => a.slot < b.slot)
    (h' : l'.Pairwise fun a b => a.slot < b.slot) (hmem : ∀ op, op ∈ l ↔ op ∈ l') : l = l' := by
  have : Std.Antisymm fun a b : Op => a.slot < b.slot :=
    ⟨fun _ _ hab hba => absurd hab (Nat.lt_asymm hba)⟩
  have : Std.Irrefl fun a b : Op => a.slot < b.slot := ⟨fun a => Nat.lt_irrefl a.slot⟩
  exact h.eq_of_mem_iff h' hmem

/-- Operators are the contents of the slots, from the first to the last. -/
theorem toList_eq_filterMap (os : Operators) :
    os.toList = (List.range 12).filterMap os.inSlot? := by
  refine eq_of_sorted os.sorted ?_ fun op => ?_
  · refine List.pairwise_lt_range.filterMap os.inSlot? fun n m hlt op hop op' hop' => ?_
    rwa [((inSlot?_eq_some_iff os n op).1 hop).2, ((inSlot?_eq_some_iff os m op').1 hop').2]
  · rw [List.mem_filterMap]
    constructor
    · intro hmem
      exact ⟨op.slot, List.mem_range.2 op.slot_lt,
        (inSlot?_eq_some_iff os op.slot op).2 ⟨hmem, rfl⟩⟩
    · rintro ⟨n, -, hn⟩
      exact ((inSlot?_eq_some_iff os n op).1 hn).1

theorem ext_of_inSlot? {a b : Operators} (h : ∀ n, a.inSlot? n = b.inSlot? n) : a = b := by
  have hlist : a.toList = b.toList := by
    rw [toList_eq_filterMap, toList_eq_filterMap, funext h]
  cases a; cases b; cases hlist; rfl

/-! ## Sequences of calls -/

theorem lastIn_concat (ops : List Op) (op : Op) (n : Nat) :
    lastIn (ops ++ [op]) n = if op.slot = n then some op else lastIn ops n := by
  rw [lastIn, List.reverse_append, List.reverse_singleton, List.singleton_append, List.find?_cons]
  by_cases h : op.slot = n
  · simp [h]
  · simp [h, lastIn]

theorem inSlot?_ofSetters (calls : List Setter) (n : Nat) :
    (ofSetters calls).inSlot? n = lastIn (calls.map Setter.op) n := by
  induction calls using List.reverseRecOn with
  | nil => rfl
  | append_singleton calls s ih =>
    rw [ofSetters, List.foldl_append, List.foldl_cons, List.foldl_nil, Setter.apply_eq_set,
      inSlot?_set, List.map_append, List.map_singleton, lastIn_concat, ← ih]
    rfl

theorem toList_ofSetters (calls : List Setter) :
    (ofSetters calls).toList = (List.range 12).filterMap (lastIn (calls.map Setter.op)) := by
  rw [toList_eq_filterMap, funext (inSlot?_ofSetters calls)]

theorem ofSetters_eq_iff {calls calls' : List Setter} :
    ofSetters calls = ofSetters calls' ↔
      ∀ n, lastIn (calls.map Setter.op) n = lastIn (calls'.map Setter.op) n := by
  constructor
  · intro h n
    rw [← inSlot?_ofSetters, h, inSlot?_ofSetters]
  · intro h
    refine ext_of_inSlot? fun n => ?_
    rw [inSlot?_ofSetters, h, inSlot?_ofSetters]

end Operators

/-! ## Texts -/

theorem Draft.text_slots (vs : List Value) :
    (Draft.slots vs).sql.text = ", ".intercalate (vs.map fun _ => "?") := by
  rw [Draft.sql_slots, Sql.text_join, List.map_map, List.map_map]
  rfl

namespace Op

theorem text_comparisonDraft (column operator : String) (v : Value) :
    (comparisonDraft column operator v).sql.text =
      Name.written column ++ Sql.text [.word (" " ++ operator ++ " "), .slot] :=
  Sql.text_cons_cons _ _ _

theorem text_membershipDraft (column operator constant : String) (v : Value) (vs : List Value) :
    (membershipDraft column operator constant (v :: vs)).sql.text =
      Name.written column ++ (" " ++ operator ++ " (") ++
        ", ".intercalate ((v :: vs).map fun _ => "?") ++ ")" := by
  rw [membershipDraft, List.isEmpty_cons, if_neg Bool.false_ne_true, Draft.sql_append,
    Draft.sql_append, Sql.text_append, Sql.text_append, Draft.text_slots, Draft.sql_cons,
    Draft.sql_cons, Sql.text_cons_cons, Draft.sql_nil, Draft.toToken_word, Sql.text_word]
  rfl

/-- The draft of an operator has its text. -/
theorem text_draft (column : String) (op : Op) :
    (op.draft column).sql.text = op.text (Name.written column) := by
  cases op with
  | eq v | ne v | gt v | gte v | lt v | lte v | like v | notLike v =>
    exact text_comparisonDraft column _ v
  | oneOf vs | noneOf vs =>
    cases vs with
    | nil => rfl
    | cons v vs => exact text_membershipDraft column _ _ v vs
  | between low high => exact Sql.text_cons_cons _ _ _
  | isNull b => cases b <;> exact Sql.text_cons_cons _ _ _

end Op

/-- Operators on an accepted column are compiled to their atoms, joined by AND. -/
theorem Conditions.compile_single {column : String} (h : Name.Accepted column) (os : Operators) :
    compile (.single column (.operators os)) =
      .ok ⟨" AND ".intercalate (os.toList.map (Op.text (Name.written column))),
        os.toList.flatMap Op.operands⟩ := by
  have hfault : Step.firstFault? (steps (.single column (.operators os))) = none := by
    rw [Step.firstFault?_eq_none_iff]
    intro text htext
    have hname := Step.mem_names_iff.2 htext
    rw [names_steps] at hname
    rw [List.mem_singleton.1 hname]
    exact h
  have hatoms : atomDrafts (.single column (.operators os)) = os.toList.map (Op.draft column) :=
    List.append_nil _
  have hvalues : values (.single column (.operators os)) = os.toList.flatMap Op.operands :=
    List.append_nil _
  have htext : (draft (.single column (.operators os))).sql.text =
      " AND ".intercalate (os.toList.map (Op.text (Name.written column))) := by
    rw [draft, hatoms, Draft.sql_join, Sql.text_join, List.map_map, List.map_map]
    exact congrArg _ (List.map_congr_left fun op _ => Op.text_draft column op)
  rw [compile, render_eq_emit, Render.statement_emit, hfault, values_steps, hvalues, htext]

/-! ## Top theorem -/

/-- **Operators keep their last payloads.**  Whatever operators are set one after the other, each
that was set is there once, with the payload that was set last, and they stand in the order of
their slots; compiled for an accepted column they give just these atoms, joined by AND, and bind
just these payloads.  Calls make the same operators exactly if they leave the same last payloads.
A setter of an operator is the setter for all with that operator, and leaves every other slot as
it was. -/
theorem operators_keep_last_payloads :
    (∀ calls : List Operators.Setter,
      let ops := (List.range 12).filterMap (Operators.lastIn (calls.map Operators.Setter.op))
      (Operators.ofSetters calls).toList = ops ∧
      ∀ column, Name.Accepted column →
        Conditions.compile (.single column (.operators (Operators.ofSetters calls))) =
          .ok ⟨" AND ".intercalate (ops.map (Op.text (Name.written column))),
            ops.flatMap Op.operands⟩) ∧
    (∀ calls calls' : List Operators.Setter,
      Operators.ofSetters calls = Operators.ofSetters calls' ↔
        ∀ n, Operators.lastIn (calls.map Operators.Setter.op) n =
          Operators.lastIn (calls'.map Operators.Setter.op) n) ∧
    ∀ (os : Operators) (s : Operators.Setter),
      s.apply os = os.set s.op ∧
      ∀ n, (s.apply os).inSlot? n = if s.op.slot = n then some s.op else os.inSlot? n := by
  refine ⟨fun calls => ?_, fun _ _ => Operators.ofSetters_eq_iff, fun os s => ?_⟩
  · have hlist := Operators.toList_ofSetters calls
    refine ⟨hlist, fun column haccepted => ?_⟩
    rw [← hlist]
    exact Conditions.compile_single haccepted _
  · have hset := s.apply_eq_set os
    refine ⟨hset, fun n => ?_⟩
    rw [hset]
    exact os.inSlot?_set s.op n

/-- Operators that are set against the order of the slots, one of them three times. -/
def priceBand : List Operators.Setter :=
  [.isNull true, .lte (100 : Int64), .set (.gte (.integer 5)), .oneOf ([] : List String),
    .gte (20 : Int64), .set (.lt .null), .isNull false, .gte (10 : Int64)]

theorem operators_keep_last_payloads_priceBand :
    Name.Accepted "price" ∧
      Conditions.compile (.single "price" (.operators (.ofSetters priceBand))) =
        .ok ⟨"\"price\" >= ? AND \"price\" < ? AND \"price\" <= ? AND 1=0 AND " ++
          "\"price\" IS NOT NULL", [.integer 10, .null, .integer 100]⟩ := by
  have haccepted : Name.Accepted "price" := ⟨.ident (.single "price"), rfl⟩
  refine ⟨haccepted, ?_⟩
  rw [(operators_keep_last_payloads.1 priceBand).2 "price" haccepted]
  rfl

end TypedSql
