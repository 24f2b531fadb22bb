import TypedSql.Json.Basic
import TypedSql.Number.Layout

/-!
# JSON text

The compact form of a document: no blank between its marks, fields in the order
of their keys.  A control character is escaped; U+007F and all that is not ASCII
stands as it is.
-/

namespace TypedSql.Json

/-- A number has a decimal point or an exponent, so that it reads back as a
real; from 1e16 on and below 1e-5 it has a signed exponent. -/
def numberLayout : Layout :=
  { tie := .toEven, positional := some (-5, 15), wholePlace := true, plusSign := true }

/-- One character of a string. -/
def escapeChar (c : Char) : List Char :=
  if c = '"' then ['\\', '"']
  else if c = '\\' then ['\\', '\\']
  else if c = '\x08' then ['\\', 'b']
  else if c = '\x0c' then ['\\', 'f']
  else if c = '\n' then ['\\', 'n']
  else if c = '\r' then ['\\', 'r']
  else if c = '\t' then ['\\', 't']
  else if c.toNat < 0x20 then
    ['\\', 'u', '0', '0', Nat.digitChar (c.toNat / 16), Nat.digitChar (c.toNat % 16)]
  else [c]

def stringChars (s : String) : List Char :=
  '"' :: s.toList.flatMap escapeChar ++ ['"']

mutual

def chars : Json → List Char
  | .null => "null".toList
  | .bool true => "true".toList
  | .bool false => "false".toList
  | .int n => (toString n).toList
  | .real x => if x.isFinite then (numberLayout.text x).toList else "null".toList
  | .str s => stringChars s
  | .arr items => '[' :: itemChars items ++ [']']
  | .obj fields => '\x7b' :: fieldChars fields ++ ['\x7d']

def itemChars : List Json → List Char
  | [] => []
  | [j] => chars j
  | j :: rest => chars j ++ ',' :: itemChars rest

def fieldChars : List (String × Json) → List Char
  | [] => []
  | [(k, j)] => stringChars k ++ ':' :: chars j
  | (k, j) :: rest => stringChars k ++ ':' :: chars j ++ ',' :: fieldChars rest

end

def text (j : Json) : String := String.ofList j.chars

end TypedSql.Json
