/-!
# Blanks and words

`isBlank` is the Unicode property `White_Space`.  `words` cuts a text at its
blanks and keeps what lies between them.

    isBlank '\u001f' = false, isBlank '\u200b' = false, isBlank '\u00a0' = true
    words "NOT \t LIKE".toList = ["NOT".toList, "LIKE".toList]
-/

namespace TypedSql.Text

/-- The Unicode property `White_Space`. -/
def isBlank (c : Char) : Bool :=
  let n := c.toNat
  (0x09 ≤ n && n ≤ 0x0D) || n == 0x20 || n == 0x85 || n == 0xA0 || n == 0x1680 ||
    (0x2000 ≤ n && n ≤ 0x200A) || n == 0x2028 || n == 0x2029 || n == 0x202F || n == 0x205F ||
    n == 0x3000

/-- Puts a character in front of the first word. -/
def consWord (c : Char) : List (List Char) → List (List Char)
  | [] => [[c]]
  | w :: ws => (c :: w) :: ws

/-- The maximal blank-free stretches of a text, in order. -/
def words : List Char → List (List Char)
  | [] => []
  | c :: cs =>
    if isBlank c then words cs
    else match cs with
      | [] => [[c]]
      | d :: _ => if isBlank d then [c] :: words cs else consWord c (words cs)

end TypedSql.Text
