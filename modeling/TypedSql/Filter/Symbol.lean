import TypedSql.Filter.Operators
import TypedSql.Text.Blank

/-!
# Comparison symbols

A symbol is read with its blanks evened out and its ASCII letters in upper case.
A symbol that is not known means equality.

    Op.ofSymbol "not \t like" v = .notLike v,  Op.ofSymbol "> =" v = .eq v
-/

namespace TypedSql

/-- The words of a symbol with one space between them, in upper case. -/
def canonicalSymbol (symbol : String) : String :=
  String.ofList (([' '].intercalate (Text.words symbol.toList)).map Char.toUpper)

def Op.ofSymbol (symbol : String) (v : Value) : Op :=
  match canonicalSymbol symbol with
  | "=" => .eq v
  | "!=" => .ne v
  | "<>" => .ne v
  | ">" => .gt v
  | ">=" => .gte v
  | "<" => .lt v
  | "<=" => .lte v
  | "LIKE" => .like v
  | "NOT LIKE" => .notLike v
  | _ => .eq v

def Operators.ofSymbol (symbol : String) (v : Value) : Operators := .single (.ofSymbol symbol v)

end TypedSql
