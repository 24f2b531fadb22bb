import TypedSql.ColumnMap
import TypedSql.Error
import TypedSql.Json.Printer
import TypedSql.Value.Json

/-!
# Payloads

The values that an insert or an update writes, by column.  A payload can be made
from anything that serializes to a JSON object; its columns are then in the
order of the object's keys.
-/

namespace TypedSql

abbrev Payload := ColumnMap Value

namespace Payload

def equals (a b : Payload) : Bool := ColumnMap.equals Value.equals a b

/-- The fields of an object; nested arrays and objects are kept as JSON text. -/
def ofJson : Json → Except Error Payload
  | .obj fields => .ok (.ofList (fields.map fun f => (f.1, Value.ofJson f.2)))
  | j => .error (.serialization ("expected a struct or map, got " ++ j.text))

/-- From the outcome of serializing something, which may fail with a message. -/
def ofSerialized : Except String Json → Except Error Payload
  | .ok j => ofJson j
  | .error message => .error (.serialization message)

end Payload

end TypedSql
