import TypedSql.Filter.Op

/-!
# Reading conditions

A reader for the conditions of SQL.  It knows the language and not who has written
the text:

    expression  := conjunction (OR conjunction)*
    conjunction := operand (AND operand)*
    operand     := ( expression ) | predicate
    predicate   := column comparison ? | column [NOT] LIKE ? | column [NOT] IN ( ? , … )
                 | column BETWEEN ? AND ? | column IS [NOT] NULL | number = number
    column      := identifier (. identifier)*

The text is first divided into lexemes.  A delimited identifier is one lexeme,
whatever stands between its quotes, and the n-th question mark takes the n-th of
the values that are bound to the text.

    readChain_read: operands with a keyword between each two are read as one chain
-/

namespace TypedSql

/-! ## Lexemes -/

inductive Comparison where
  | eq
  | ne
  | lt
  | le
  | gt
  | ge
deriving DecidableEq

inductive Keyword where
  | and
  | or
  | not
  | inList
  | like
  | between
  | is
  | null
deriving DecidableEq

inductive Lexeme where
  /-- a delimited identifier, by what its quotes enclose -/
  | identifier (s : String)
  | keyword (k : Keyword)
  | comparison (c : Comparison)
  | number (n : Nat)
  /-- a question mark, by the value that is bound to it -/
  | value (v : Value)
  | leftParen
  | rightParen
  | comma
  | dot
deriving DecidableEq

def Keyword.ofChars? : List Char → Option Keyword
  | ['A', 'N', 'D'] => some .and
  | ['O', 'R'] => some .or
  | ['N', 'O', 'T'] => some .not
  | ['I', 'N'] => some .inList
  | ['L', 'I', 'K', 'E'] => some .like
  | ['B', 'E', 'T', 'W', 'E', 'E', 'N'] => some .between
  | ['I', 'S'] => some .is
  | ['N', 'U', 'L', 'L'] => some .null
  | _ => none

/-- The lexeme that the scanner stands in. -/
inductive Partial where
  | blank
  /-- an identifier whose quote is open -/
  | quoted (cs : List Char)
  /-- an identifier behind a quote that closes it, unless it is doubled -/
  | closing (cs : List Char)
  | letters (cs : List Char)
  | digits (n : Nat)
  /-- one of `<`, `>` and `!`, which a second sign may follow -/
  | sign (c : Char)
deriving DecidableEq

namespace Partial

/-- What has been read where nothing more follows. -/
def finish : Partial → Option (List Lexeme)
  | blank => some []
  | quoted _ => none
  | closing cs => some [.identifier (String.ofList cs)]
  | letters cs => (Keyword.ofChars? cs).map fun k => [.keyword k]
  | digits n => some [.number n]
  | sign '<' => some [.comparison .lt]
  | sign '>' => some [.comparison .gt]
  | sign _ => none

end Partial

structure Scanner where
  /-- the values that no question mark has taken yet -/
  values : List Value
  lexemes : List Lexeme
  reading : Partial

namespace Scanner

/-- The lexemes up to here, the one being read included. -/
def done? (s : Scanner) : Option (List Lexeme) := s.reading.finish.map (s.lexemes ++ ·)

/-- A character that starts a lexeme behind `lexemes`. -/
def start (values : List Value) (lexemes : List Lexeme) (c : Char) : Option Scanner :=
  match c with
  | '"' => some ⟨values, lexemes, .quoted []⟩
  | '(' => some ⟨values, lexemes ++ [.leftParen], .blank⟩
  | ')' => some ⟨values, lexemes ++ [.rightParen], .blank⟩
  | ',' => some ⟨values, lexemes ++ [.comma], .blank⟩
  | '.' => some ⟨values, lexemes ++ [.dot], .blank⟩
  | '=' => some ⟨values, lexemes ++ [.comparison .eq], .blank⟩
  | '?' =>
    match values with
    | v :: values => some ⟨values, lexemes ++ [.value v], .blank⟩
    | [] => none
  | c =>
    if c.isWhitespace then some ⟨values, lexemes, .blank⟩
    else if c.isAlpha then some ⟨values, lexemes, .letters [c.toUpper]⟩
    else if c.isDigit then some ⟨values, lexemes, .digits (c.toNat - '0'.toNat)⟩
    else if c = '<' ∨ c = '>' ∨ c = '!' then some ⟨values, lexemes, .sign c⟩
    else none

def step (s : Scanner) (c : Char) : Option Scanner :=
  match s.reading with
  | .quoted cs =>
    if c = '"' then some { s with reading := .closing cs }
    else some { s with reading := .quoted (cs ++ [c]) }
  | .closing cs =>
    if c = '"' then some { s with reading := .quoted (cs ++ [c]) }
    else s.done?.bind fun lexemes => start s.values lexemes c
  | .letters cs =>
    if c.isAlpha then some { s with reading := .letters (cs ++ [c.toUpper]) }
    else s.done?.bind fun lexemes => start s.values lexemes c
  | .digits n =>
    if c.isDigit then some { s with reading := .digits (10 * n + (c.toNat - '0'.toNat)) }
    else s.done?.bind fun lexemes => start s.values lexemes c
  | .sign d =>
    match d, c with
    | '<', '=' => some ⟨s.values, s.lexemes ++ [.comparison .le], .blank⟩
    | '>', '=' => some ⟨s.values, s.lexemes ++ [.comparison .ge], .blank⟩
    | '!', '=' => some ⟨s.values, s.lexemes ++ [.comparison .ne], .blank⟩
    | '<', '>' => some ⟨s.values, s.lexemes ++ [.comparison .ne], .blank⟩
    | _, _ => s.done?.bind fun lexemes => start s.values lexemes c
  | .blank => start s.values s.lexemes c

def run (s : Scanner) (cs : List Char) : Option Scanner := cs.foldlM step s

end Scanner

/-- The lexemes of a whole text to which `values` are bound, all of them and no
more. -/
def lexemes? (text : String) (values : List Value) : Option (List Lexeme) :=
  match Scanner.run ⟨values, [], .blank⟩ text.toList with
  | some s => if s.values.isEmpty then s.done? else none
  | none => none

/-! ## Expressions -/

/-- A condition on one column, or one that does not depend on the row. -/
inductive Atom where
  | on (column : Ident) (op : Op)
  | constant (b : Bool)
deriving DecidableEq

inductive Expr where
  | atom (a : Atom)
  | and (a b : Expr)
  | or (a b : Expr)
deriving DecidableEq

/-- Reads something at the front and gives the lexemes behind it. -/
abbrev Reader (α : Type) := List Lexeme → Option (α × List Lexeme)

namespace Expr

/-- The parts of a column behind the first one. -/
def readParts : List Lexeme → List String × List Lexeme
  | .dot :: .identifier s :: ls => ((s :: (readParts ls).1), (readParts ls).2)
  | ls => ([], ls)

/-- The values of a list, to its closing parenthesis. -/
def readList : Reader (List Value)
  | .value v :: .comma :: ls => (readList ls).map fun r => (v :: r.1, r.2)
  | .value v :: .rightParen :: ls => some ([v], ls)
  | _ => none

/-- What a predicate says of its column. -/
def readOp : Reader Op
  | .comparison .eq :: .value v :: ls => some (.eq v, ls)
  | .comparison .ne :: .value v :: ls => some (.ne v, ls)
  | .comparison .gt :: .value v :: ls => some (.gt v, ls)
  | .comparison .ge :: .value v :: ls => some (.gte v, ls)
  | .comparison .lt :: .value v :: ls => some (.lt v, ls)
  | .comparison .le :: .value v :: ls => some (.lte v, ls)
  | .keyword .like :: .value v :: ls => some (.like v, ls)
  | .keyword .not :: .keyword .like :: .value v :: ls => some (.notLike v, ls)
  | .keyword .inList :: .leftParen :: ls => (readList ls).map fun r => (.oneOf r.1, r.2)
  | .keyword .not :: .keyword .inList :: .leftParen :: ls =>
    (readList ls).map fun r => (.noneOf r.1, r.2)
  | .keyword .between :: .value low :: .keyword .and :: .value high :: ls =>
    some (.between low high, ls)
  | .keyword .is :: .keyword .null :: ls => some (.isNull true, ls)
  | .keyword .is :: .keyword .not :: .keyword .null :: ls => some (.isNull false, ls)
  | _ => none

def readPredicate : Reader Expr
  | .number n :: .comparison .eq :: .number m :: ls => some (.atom (.constant (n == m)), ls)
  | .identifier s :: ls =>
    let (parts, ls) := readParts ls
    (readOp ls).map fun r => (.atom (.on ⟨s :: parts⟩ r.1), r.2)
  | _ => none

/-- The rest of a chain whose front is `e`, of at most `n` links. -/
def readLinks (k : Keyword) (join : Expr → Expr → Expr) (read : Reader Expr) :
    Nat → Expr → Reader Expr
  | n + 1, e, .keyword k' :: ls =>
    if k' = k then (read ls).bind fun r => readLinks k join read n (join e r.1) r.2
    else some (e, .keyword k' :: ls)
  | _, e, ls => some (e, ls)

/-- Operands with the keyword between each two, joined from the left. -/
def readChain (k : Keyword) (join : Expr → Expr → Expr) (read : Reader Expr) : Reader Expr :=
  fun ls => (read ls).bind fun r => readLinks k join read r.2.length r.1 r.2

/-- A predicate, or what `inner` reads in parentheses. -/
def readOperand (inner : Reader Expr) : Reader Expr
  | .leftParen :: ls =>
    match inner ls with
    | some (e, .rightParen :: ls) => some (e, ls)
    | _ => none
  | ls => readPredicate ls

/-- An expression with at most `n` parentheses inside each other. -/
def readNested : Nat → Reader Expr
  | 0 => fun _ => none
  | n + 1 => readChain .or .or (readChain .and .and (readOperand (readNested n)))

/-- What a filter says: nothing where its text is empty, otherwise one expression,
which is the whole of the text and to which `values` are bound.  There are fewer
parentheses than lexemes. -/
def readFilter (text : String) (values : List Value) : Option (Option Expr) := do
  let ls ← lexemes? text values
  if ls.isEmpty then return none
  match readNested (ls.length + 1) ls with
  | some (e, []) => return some e
  | _ => failure

end Expr

theorem Expr.readFilter_of_read {text : String} {values : List Value} {ls : List Lexeme} {e : Expr}
    (hls : lexemes? text values = some ls) (hne : ls ≠ [])
    (hread : readNested (ls.length + 1) ls = some (e, [])) :
    readFilter text values = some (some e) := by
  simp [readFilter, hls, hne, hread]

/-! ## Chains -/

theorem intercalate_cons {α : Type} (x : α) (a : List α) (as : List (List α)) :
    [x].intercalate (a :: as) = a ++ as.flatMap (x :: ·) := by
  induction as generalizing a with
  | nil => simp
  | cons b as ih =>
    rw [List.intercalate_cons_cons, ih b, List.flatMap_cons, List.append_assoc]
    rfl

namespace Expr

/-- Expressions joined from the left; there is no chain of none. -/
def chain? (join : Expr → Expr → Expr) : List Expr → Option Expr
  | [] => none
  | e :: es => some (es.foldl join e)

section

variable {k : Keyword} {join : Expr → Expr → Expr} {read : Reader Expr}
  (Follows : List Lexeme → Prop)

theorem readLinks_read (hk : ∀ rest, Follows (.keyword k :: rest)) {rest : List Lexeme}
    (hrest : Follows rest) (hend : ∀ ls, rest ≠ .keyword k :: ls)
    (xs : List (List Lexeme × Expr))
    (h : ∀ x ∈ xs, ∀ rest, Follows rest → read (x.1 ++ rest) = some (x.2, rest)) (n : Nat)
    (hn : xs.length ≤ n) (e : Expr) :
    readLinks k join read n e (xs.flatMap (fun x => .keyword k :: x.1) ++ rest) =
      some (xs.foldl (fun e x => join e x.2) e, rest) := by
  induction xs generalizing n e with
  | nil =>
    unfold readLinks
    split
    · next k' ls heq =>
      have hne : k' ≠ k := by
        rintro rfl
        exact hend ls heq
      rw [if_neg hne, ← heq]
      rfl
    · rfl
  | cons x xs ih =>
    obtain ⟨m, rfl⟩ : ∃ m, n = m + 1 := ⟨n - 1, by rw [List.length_cons] at hn; omega⟩
    have hfollows : Follows (xs.flatMap (fun x => .keyword k :: x.1) ++ rest) := by
      cases xs with
      | nil => exact hrest
      | cons y ys => exact hk _
    have hx := h x List.mem_cons_self _ hfollows
    rw [List.flatMap_cons, List.cons_append, List.cons_append, List.append_assoc, readLinks,
      if_pos rfl, hx, Option.bind_some]
    exact ih (fun y hy => h y (List.mem_cons_of_mem _ hy)) m
      (by rw [List.length_cons] at hn; omega) _

/-- A chain of one operand, up to what does not go on with the keyword. -/
theorem readChain_single {ls rest : List Lexeme} {e : Expr} (hend : ∀ ls, rest ≠ .keyword k :: ls)
    (h : read (ls ++ rest) = some (e, rest)) :
    readChain k join read (ls ++ rest) = some (e, rest) := by
  rw [readChain, h, Option.bind_some]
  exact readLinks_read (fun _ => True) (fun _ => trivial) trivial hend []
    (fun x hx => absurd hx List.not_mem_nil) _ (Nat.zero_le _) e

/-- Operands with the keyword between each two are read as one chain, up to what
does not go on with the keyword. -/
theorem readChain_read (hk : ∀ rest, Follows (.keyword k :: rest)) {rest : List Lexeme}
    (hrest : Follows rest) (hend : ∀ ls, rest ≠ .keyword k :: ls)
    (x : List Lexeme × Expr) (xs : List (List Lexeme × Expr))
    (h : ∀ y ∈ x :: xs, ∀ rest, Follows rest → read (y.1 ++ rest) = some (y.2, rest)) :
    readChain k join read ([Lexeme.keyword k].intercalate ((x :: xs).map Prod.fst) ++ rest) =
      some (xs.foldl (fun e y => join e y.2) x.2, rest) := by
  have hfollows : Follows (xs.flatMap (fun y => .keyword k :: y.1) ++ rest) := by
    cases xs with
    | nil => exact hrest
    | cons y ys => exact hk _
  have hlength : xs.length ≤ (xs.flatMap (fun y => .keyword k :: y.1) ++ rest).length := by
    clear h hfollows
    induction xs with
    | nil => exact Nat.zero_le _
    | cons y ys ih =>
      simp only [List.flatMap_cons, List.length_append, List.length_cons] at ih ⊢
      omega
  rw [readChain, List.map_cons, intercalate_cons, List.flatMap_map, List.append_assoc,
    h x List.mem_cons_self _ hfollows, Option.bind_some]
  exact readLinks_read Follows hk hrest hend xs (fun y hy => h y (List.mem_cons_of_mem _ hy)) _
    hlength x.2

end

end Expr

end TypedSql
