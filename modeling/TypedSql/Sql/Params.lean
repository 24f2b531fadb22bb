import TypedSql.Value.Basic

/-!
# Parameter lists

The values bound to the placeholders of a statement, in the order of the
placeholders.
-/

namespace TypedSql

structure Params where
  toArray : Array Value
deriving DecidableEq

namespace Params

def empty : Params := ⟨#[]⟩

def ofList (values : List Value) : Params := ⟨values.toArray⟩

def toList (p : Params) : List Value := p.toArray.toList

def size (p : Params) : Nat := p.toArray.size

def isEmpty (p : Params) : Bool := p.toArray.isEmpty

/-- Appends a value and gives its position, counted from one. -/
def push (p : Params) (v : Value) : Nat × Params := (p.size + 1, ⟨p.toArray.push v⟩)

@[simp] theorem toList_empty : empty.toList = [] := rfl

@[simp] theorem toList_ofList (values : List Value) : (ofList values).toList = values := rfl

@[simp] theorem toList_push (p : Params) (v : Value) : (p.push v).2.toList = p.toList ++ [v] := by
  simp [push, toList]

theorem position_push (p : Params) (v : Value) : (p.push v).1 = (p.push v).2.size := by
  simp [push, size]

end Params

end TypedSql
