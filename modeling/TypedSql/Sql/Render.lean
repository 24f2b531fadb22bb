import TypedSql.Error
import TypedSql.Name.Parser
import TypedSql.Sql.Token
import TypedSql.Sql.Params

/-!
# Rendering

Rendering writes SQL and binds values on the way: a placeholder is written by
`slot`, which appends its value to the parameters, so the two stay in step.  It
fails on a text that is no name; what was bound before that stays bound.
-/

namespace TypedSql

/-- Why a builder has no SQL. -/
inductive RenderFault where
  | badName (fault : NameFault)
  /-- an update that sets no column -/
  | nothingToSet (table : String)
deriving DecidableEq

namespace RenderFault

def message : RenderFault → String
  | badName fault => fault.message
  | nothingToSet table => "UPDATE \"" ++ table ++ "\" has no columns to set"

def toError (f : RenderFault) : Error := .render f.message

end RenderFault

abbrev Render (α : Type) := ExceptT RenderFault (StateM Params) α

namespace Render

/-- The outcome, and the parameters it leaves behind. -/
def runOn {α : Type} (r : Render α) (p : Params) : Except RenderFault α × Params := r.run.run p

/-- The name that a text denotes. -/
def name (text : String) : Render Token :=
  match Name.parse text with
  | .ok n => pure (.name n)
  | .error fault => throw (.badName fault)

/-- A list of names between commas. -/
def names (texts : List String) : Render Sql := do
  let tokens ← texts.mapM name
  return Sql.join ", " (tokens.map ([·]))

/-- A placeholder for a value. -/
def slot (v : Value) : Render Token := do
  modify fun p => (p.push v).2
  return .slot

/-- Placeholders for values, between commas. -/
def slots (values : List Value) : Render Sql := do
  let tokens ← values.mapM slot
  return Sql.join ", " (tokens.map ([·]))

end Render

/-- A statement ready to be run. -/
structure Statement where
  text : String
  params : List Value
deriving DecidableEq

def Statement.placeholderCount (s : Statement) : Nat := countSlots none s.text.toList

/-- Renders onto an empty parameter list. -/
def Render.statement (r : Render Sql) : Except RenderFault Statement :=
  match r.runOn .empty with
  | (.ok sql, params) => .ok ⟨sql.text, params.toList⟩
  | (.error fault, _) => .error fault

end TypedSql
