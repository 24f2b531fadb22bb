import TypedSql.Text.Quoted

/-!
# Names of tables and columns

An `Ident` is a list of parts, such as a schema and a table.  It is written with
every part in double quotes and the quotes inside a part doubled, so that a
reserved word, a capital letter or a blank survives.  A `Name` is an identifier
or the star that stands for all columns.
-/

namespace TypedSql

structure Ident where
  parts : List String
deriving DecidableEq

namespace Ident

def single (part : String) : Ident := ⟨[part]⟩

/-- The last part: the table or the column itself. -/
def name (i : Ident) : String := i.parts.getLast?.getD ""

/-- A quote inside a part is written twice. -/
def partChar (c : Char) : List Char := if c = '"' then ['"', '"'] else [c]

def partChars (part : String) : List Char :=
  '"' :: part.toList.flatMap partChar ++ ['"']

def chars (i : Ident) : List Char := ['.'].intercalate (i.parts.map partChars)

def text (i : Ident) : String := String.ofList i.chars

end Ident

inductive Name where
  | all
  | ident (i : Ident)
deriving DecidableEq

/-- Why a text is no name. -/
inductive NameFault where
  | empty
  | nul
  | trailingDot (input : String)
  | missingDot (got : Char) (input : String)
  | unclosedQuote (input : String)
  | emptyQuotes
  | badCharacter (got : Char) (input : String)
  | emptySegment (input : String)
deriving DecidableEq

def NameFault.message : NameFault → String
  | empty => "Identifier cannot be empty"
  | nul => "Identifier cannot contain NUL character"
  | trailingDot input => "Trailing '.' in identifier " ++ Text.quoted input
  | missingDot got input =>
    "Expected '.' between identifier parts, got '" ++ got.toString ++ "' in " ++ Text.quoted input
  | unclosedQuote input => "Unclosed quoted identifier " ++ Text.quoted input
  | emptyQuotes => "Empty quoted identifier"
  | badCharacter got input =>
    "Invalid character '" ++ got.toString ++ "' in identifier " ++ Text.quoted input
  | emptySegment input => "Empty identifier segment in " ++ Text.quoted input

end TypedSql
