import TypedSql.Name.Basic

/-!
# SQL as tokens

A piece of SQL is a list of tokens, and its text is the concatenation of theirs.
Names are tokens of their own, so that only `Ident` decides how they are
written; a value never becomes text but leaves a `slot`.

`countSlots` finds the slots again in a text: it counts the question marks that
stand outside quotes of either kind.
-/

namespace TypedSql

inductive Token where
  /-- a fixed word of the language, its marks and blanks included -/
  | word (s : String)
  | number (n : Int)
  | name (n : Name)
  /-- a placeholder -/
  | slot
  /-- text that the caller vouches for -/
  | raw (s : String)
deriving DecidableEq

def Name.chars : Name → List Char
  | all => ['*']
  | ident i => i.chars

def Token.chars : Token → List Char
  | word s => s.toList
  | number n => (toString n).toList
  | name n => n.chars
  | slot => ['?']
  | raw s => s.toList

abbrev Sql := List Token

namespace Sql

def chars (sql : Sql) : List Char := sql.flatMap Token.chars

def text (sql : Sql) : String := String.ofList sql.chars

/-- The pieces with a separator between each two. -/
def join (separator : String) (pieces : List Sql) : Sql := [Token.word separator].intercalate pieces

/-- A name that the statement gives to one of its columns. -/
def named (name : String) : Sql := [.word " AS ", .name (.ident (.single name))]

@[simp] theorem chars_nil : chars [] = [] := rfl

@[simp] theorem chars_cons (t : Token) (sql : Sql) : chars (t :: sql) = t.chars ++ chars sql := rfl

@[simp] theorem chars_append (a b : Sql) : chars (a ++ b) = chars a ++ chars b := by
  simp [chars]

end Sql

/-- The number of question marks outside quotes, `quote` being the quote that
is open in front of the text. -/
def countSlots (quote : Option Char) : List Char → Nat
  | [] => 0
  | c :: cs =>
    match quote with
    | some q => countSlots (if c = q then none else quote) cs
    | none =>
      if c = '"' ∨ c = '\x27' then countSlots (some c) cs
      else if c = '?' then countSlots none cs + 1
      else countSlots none cs

end TypedSql
