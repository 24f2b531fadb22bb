import TypedSql.Text.Printable

/-!
# Quoted listings of a text

`quoted` writes a text between double quotes so that every character of it can
be seen: quote and backslash get a backslash, the common controls their letters,
and whatever is not plain its code point in hexadecimal.  An apostrophe stays.
-/

namespace TypedSql.Text

/-- The code point in hexadecimal between braces, without leading zeros. -/
def codePoint (c : Char) : List Char :=
  ['\\', 'u', '\x7b'] ++ Nat.toDigits 16 c.toNat ++ ['\x7d']

/-- One character as it stands in a quoted listing. -/
def quotedChar (c : Char) : List Char :=
  if c = '"' then ['\\', '"']
  else if c = '\\' then ['\\', '\\']
  else if c = '\n' then ['\\', 'n']
  else if c = '\r' then ['\\', 'r']
  else if c = '\t' then ['\\', 't']
  else if c = '\x00' then ['\\', '0']
  else if isPlain c then [c]
  else codePoint c

def quoted (s : String) : String :=
  String.ofList ('"' :: s.toList.flatMap quotedChar ++ ['"'])

end TypedSql.Text
