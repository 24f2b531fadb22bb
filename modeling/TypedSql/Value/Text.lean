import TypedSql.Value.Basic
import TypedSql.Number.Layout
import TypedSql.Text.Quoted

/-!
# Values as text

`display` is for messages about data: bare text, a blob by its size.  `listing`
is for messages about types: it names the kind and shows every byte and digit.
-/

namespace TypedSql.Value

/-- Positional throughout, and a whole number has no point. -/
def displayLayout : Layout :=
  { tie := .up, positional := none, wholePlace := false, plusSign := false }

/-- A number can be told from an integer; from 1e16 on and below 1e-4 it has an
exponent. -/
def listingLayout : Layout :=
  { tie := .up, positional := some (-4, 15), wholePlace := true, plusSign := false }

def display : Value → String
  | null => "NULL"
  | integer n => toString n.toInt
  | real x => displayLayout.text x
  | text s => s
  | blob bytes => "<" ++ toString bytes.length ++ " bytes>"

def listing : Value → String
  | null => "Null"
  | integer n => "Integer(" ++ toString n.toInt ++ ")"
  | real x => "Real(" ++ listingLayout.text x ++ ")"
  | text s => "Text(" ++ Text.quoted s ++ ")"
  | blob bytes => "Blob([" ++ ", ".intercalate (bytes.map fun b => toString b.toNat) ++ "])"

end TypedSql.Value
