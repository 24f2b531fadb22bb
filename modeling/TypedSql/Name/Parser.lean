import TypedSql.Name.Basic

/-!
# Reading names

`Ident.parse` reads parts divided by dots.  A part is bare, an ASCII letter or
underscore and then letters, digits, underscores and dollar signs, or it stands
in double quotes, with a quote inside it doubled.

`Name.parse` is more generous to what a program calls its columns: a text with
no dot and no quote in front is one part as it stands, and `*` is the star.
-/

namespace TypedSql

namespace Ident

def isBareStart (c : Char) : Bool := c = '_' || c.isAlpha

def isBareChar (c : Char) : Bool := c = '_' || c = '$' || c.isAlphanum

/-- A part after its opening quote: its content, and the text after the closing
quote. -/
def readQuoted : List Char → Option (List Char × List Char)
  | [] => none
  | '"' :: '"' :: cs => (readQuoted cs).map fun p => ('"' :: p.1, p.2)
  | '"' :: cs => some ([], cs)
  | c :: cs => (readQuoted cs).map fun p => (c :: p.1, p.2)

/-- The rest of a bare part, up to a dot or the end; or the character that
cannot stand in it. -/
def readBare : List Char → Except Char (List Char × List Char)
  | [] => .ok ([], [])
  | c :: cs =>
    if c = '.' then .ok ([], c :: cs)
    else if isBareChar c then (readBare cs).map fun p => (c :: p.1, p.2)
    else .error c

/-- One part and the text after it. -/
def readPart (input : String) : List Char → Except NameFault (List Char × List Char)
  | [] => .error (.emptySegment input)
  | '"' :: cs =>
    match readQuoted cs with
    | none => .error (.unclosedQuote input)
    | some ([], _) => .error .emptyQuotes
    | some (part, rest) => .ok (part, rest)
  | c :: cs =>
    if c = '.' then .error (.emptySegment input)
    else if isBareStart c then
      match readBare cs with
      | .ok (part, rest) => .ok (c :: part, rest)
      | .error bad => .error (.badCharacter bad input)
    else .error (.badCharacter c input)

theorem length_readQuoted {cs part rest : List Char} (h : readQuoted cs = some (part, rest)) :
    rest.length < cs.length := by
  induction cs using readQuoted.induct generalizing part rest with
  | case1 => simp [readQuoted] at h
  | case2 cs ih =>
    simp only [readQuoted, Option.map_eq_some_iff, Prod.mk.injEq] at h
    obtain ⟨p, hp, -, rfl⟩ := h
    have := ih hp
    simp only [List.length_cons]
    omega
  | case3 cs hne =>
    rw [readQuoted] at h
    · simp_all
    · exact hne
  | case4 c cs h1 h2 ih =>
    rw [readQuoted] at h
    · simp only [Option.map_eq_some_iff, Prod.mk.injEq] at h
      obtain ⟨p, hp, -, rfl⟩ := h
      have := ih hp
      simp only [List.length_cons]
      omega
    · exact h1
    · exact h2

theorem length_readBare {cs part rest : List Char} (h : readBare cs = .ok (part, rest)) :
    rest.length ≤ cs.length := by
  induction cs generalizing part rest with
  | nil => simp_all [readBare]
  | cons c cs ih =>
    rw [readBare] at h
    split at h
    · simp_all
    · split at h
      · cases hc : readBare cs with
        | error b => simp [hc, Except.map] at h
        | ok p =>
          simp only [hc, Except.map, Except.ok.injEq, Prod.mk.injEq] at h
          have : p.2.length ≤ cs.length := ih hc
          rw [← h.2, List.length_cons]
          omega
      · cases h

theorem length_readPart {input : String} {cs part rest : List Char}
    (h : readPart input cs = .ok (part, rest)) : rest.length < cs.length := by
  unfold readPart at h
  split at h
  · cases h
  · next cs =>
    split at h
    · cases h
    · cases h
    · next _ hq =>
      cases h
      have := length_readQuoted hq
      simp only [List.length_cons]
      omega
  · next c cs _ =>
    split at h
    · cases h
    · split at h
      · split at h
        · next hb =>
          cases h
          have := length_readBare hb
          simp only [List.length_cons]
          omega
        · cases h
      · cases h

/-- Parts divided by dots, to the end of the text. -/
def readParts (input : String) (cs : List Char) : Except NameFault (List String) :=
  match _h : readPart input cs with
  | .error e => .error e
  | .ok (part, []) => .ok [String.ofList part]
  | .ok (part, c :: rest) =>
    if c ≠ '.' then .error (.missingDot c input)
    else if rest.isEmpty then .error (.trailingDot input)
    else (readParts input rest).map (String.ofList part :: ·)
termination_by cs.length
decreasing_by
  have := length_readPart _h
  simp only [List.length_cons] at this
  omega

def parse (s : String) : Except NameFault Ident :=
  if s.toList.isEmpty then .error .empty
  else if '\x00' ∈ s.toList then .error .nul
  else (readParts s s.toList).map Ident.mk

end Ident

namespace Name

def parse (s : String) : Except NameFault Name :=
  if s = "*" then .ok .all
  else if '.' ∈ s.toList ∨ s.toList.head? = some '"' then (Ident.parse s).map .ident
  else if s.toList.isEmpty then .error .empty
  else if '\x00' ∈ s.toList then .error .nul
  else .ok (.ident (.single s))

end Name

end TypedSql
