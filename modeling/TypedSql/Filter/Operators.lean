import TypedSql.Filter.Op

/-!
# Several operators on one column

At most one operator for each slot, in the order of the slots.  Setting an
operator replaces the one in its slot and leaves the others alone.
-/

namespace TypedSql

structure Operators where
  toList : List Op
  sorted : toList.Pairwise fun a b => a.slot < b.slot
deriving DecidableEq

namespace Operators

/-- Puts an operator into its place among operators in slot order. -/
def setOp (op : Op) : List Op → List Op
  | [] => [op]
  | o :: os =>
    if op.slot < o.slot then op :: o :: os
    else if op.slot = o.slot then op :: os
    else o :: setOp op os

theorem mem_setOp {op o : Op} {os : List Op} (h : o ∈ setOp op os) : o = op ∨ o ∈ os := by
  induction os with
  | nil => simpa [setOp] using h
  | cons a os ih =>
    rw [setOp] at h
    split at h
    · simpa using h
    · split at h
      · rcases List.mem_cons.1 h with rfl | h
        · exact .inl rfl
        · exact .inr (List.mem_cons_of_mem _ h)
      · rcases List.mem_cons.1 h with rfl | h
        · exact .inr List.mem_cons_self
        · exact (ih h).imp_right (List.mem_cons_of_mem _)

theorem pairwise_setOp (op : Op) {os : List Op} (h : os.Pairwise fun a b => a.slot < b.slot) :
    (setOp op os).Pairwise fun a b => a.slot < b.slot := by
  induction os with
  | nil => simp [setOp]
  | cons a os ih =>
    obtain ⟨ha, hos⟩ := List.pairwise_cons.1 h
    rw [setOp]
    split
    · next hlt =>
      refine List.pairwise_cons.2 ⟨fun b hb => ?_, h⟩
      rcases List.mem_cons.1 hb with rfl | hb
      · exact hlt
      · exact Nat.lt_trans hlt (ha b hb)
    · split
      · next heq => exact List.pairwise_cons.2 ⟨fun b hb => heq ▸ ha b hb, hos⟩
      · refine List.pairwise_cons.2 ⟨fun b hb => ?_, ih hos⟩
        rcases mem_setOp hb with rfl | hb
        · omega
        · exact ha b hb

def empty : Operators := ⟨[], List.Pairwise.nil⟩

instance : EmptyCollection Operators := ⟨empty⟩

def set (os : Operators) (op : Op) : Operators :=
  ⟨setOp op os.toList, pairwise_setOp op os.sorted⟩

def single (op : Op) : Operators := empty.set op

def isEmpty (os : Operators) : Bool := os.toList.isEmpty

def equals (a b : Operators) : Bool := a.toList.isEqv b.toList Op.equals

section Setters

variable {α : Type} [ToValue α] (os : Operators)

def eq (v : α) : Operators := os.set (.eq (toValue v))

def ne (v : α) : Operators := os.set (.ne (toValue v))

def gt (v : α) : Operators := os.set (.gt (toValue v))

def gte (v : α) : Operators := os.set (.gte (toValue v))

def lt (v : α) : Operators := os.set (.lt (toValue v))

def lte (v : α) : Operators := os.set (.lte (toValue v))

def like (pattern : String) : Operators := os.set (.like (.text pattern))

def notLike (pattern : String) : Operators := os.set (.notLike (.text pattern))

def oneOf (values : List α) : Operators := os.set (.oneOf (values.map toValue))

def noneOf (values : List α) : Operators := os.set (.noneOf (values.map toValue))

def between (low high : α) : Operators := os.set (.between (toValue low) (toValue high))

def isNull (b : Bool) : Operators := os.set (.isNull b)

end Setters

end Operators

end TypedSql
