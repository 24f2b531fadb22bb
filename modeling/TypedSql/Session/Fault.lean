import TypedSql.Error
import TypedSql.Session.ResultCode

/-!
# Engine faults

An engine refuses a statement with a result code, whose lowest byte is the
primary code, and perhaps a message; or it fails in some other way.  Of the
codes of the constraint class, four kinds have errors of their own.
-/

namespace TypedSql

inductive EngineFault where
  | failure (code : Int) (message : Option String)
  | other (text : String)
deriving DecidableEq

namespace EngineFault

/-- The engine's message, or the code and what it stands for. -/
def text : EngineFault → String
  | failure _ (some m) => m
  | failure code none => "Error code " ++ toString code ++ ": " ++ ResultCode.text code
  | other t => t

def isConstraint : EngineFault → Bool
  | failure code _ => ResultCode.isConstraint code
  | other _ => false

end EngineFault

/-- The error that a fault is reported as. -/
def Error.ofEngine (f : EngineFault) : Error :=
  match f with
  | .failure 2067 _ => .uniqueViolation f.text
  | .failure 1555 _ => .uniqueViolation f.text
  | .failure 1299 _ => .notNullViolation f.text
  | .failure 787 _ => .foreignKeyViolation f.text
  | .failure 275 _ => .checkViolation f.text
  | _ => .query f.text

/-! ## Lemmas -/

theorem EngineFault.isConstraint_of_isConstraintViolation {f : EngineFault}
    (h : (Error.ofEngine f).isConstraintViolation = true) : f.isConstraint = true := by
  unfold Error.ofEngine at h
  split at h
  · rfl
  · rfl
  · rfl
  · rfl
  · rfl
  · simp [Error.isConstraintViolation] at h

end TypedSql
