import TypedSql.Proofs.DelimitedNames
import TypedSql.Proofs.Expression

/-!
# Names are read back

An identifier is written so that the reader finds its parts again, whatever they are made of,
and `Name.quote` writes a name so that it stays as it is when it is quoted once more:

    Ident.parse i.text = .ok i  ↔  i.WellFormed                         (Ident.parse_text_iff)
    Ident.parse s = .ok i       →  Name.quote s = .ok i.text        (Name.quote_of_parse_ident)
    Name.quote s = .ok t        →  Name.quote t = .ok t                     (Name.quote_quote)

`Name.Denotes` says without a reader which parts a text stands for.  Two texts are written alike
exactly if they stand for the same parts or are both the star (`identifiers_read_back`).
-/

namespace TypedSql

/-! ## Names and what they denote -/

namespace Ident

/-- There is a part, and every part can stand between quotes. -/
structure WellFormed (i : Ident) : Prop where
  parts_ne_nil : i.parts ≠ []
  part_ne_empty : ∀ part ∈ i.parts, part ≠ ""
  nul_notMem : ∀ part ∈ i.parts, '\x00' ∉ part.toList

end Ident

namespace Name

/-- How the name that a text denotes is written. -/
def quote (text : String) : Except NameFault String := (parse text).map fun n => Sql.text [.name n]

/-- The text stands for these parts: it is taken for one part as it stands, or is spelled by the
grammar. -/
structure Denotes (text : String) (parts : List String) : Prop where
  nul_notMem : '\x00' ∉ text.toList
  form : (IsPlain text ∧ text ≠ "" ∧ parts = [text]) ∨ Ident.Spelling text.toList parts

end Name

/-! ## Characters of an identifier -/

namespace Ident

theorem Items.subset {w part : List Char} (h : Items w part) : part ⊆ w := by
  induction h with
  | nil => exact List.Subset.refl _
  | char _ _ ih => exact List.cons_subset_cons _ ih
  | quote _ ih => exact List.cons_subset_cons _ (List.subset_cons_of_subset _ ih)

theorem Items.eq_quote_or_mem {w part : List Char} (h : Items w part) {c : Char} (hc : c ∈ w) :
    c = '"' ∨ c ∈ part := by
  induction h with
  | nil => cases hc
  | char _ _ ih =>
    rcases List.mem_cons.1 hc with rfl | hc
    · exact .inr List.mem_cons_self
    · exact (ih hc).imp_right (List.mem_cons_of_mem _)
  | quote _ ih =>
    rcases List.mem_cons.1 hc with rfl | hc
    · exact .inl rfl
    · rcases List.mem_cons.1 hc with rfl | hc
      · exact .inl rfl
      · exact (ih hc).imp_right (List.mem_cons_of_mem _)

theorem PartSpelling.subset {w part : List Char} (h : PartSpelling w part) : part ⊆ w := by
  cases h with
  | bare => exact List.Subset.refl _
  | quoted h =>
    obtain ⟨hitems, -⟩ := h
    exact List.subset_cons_of_subset _ (List.subset_append_of_subset_left _ hitems.subset)

/-- A part has no characters but those of its spelling. -/
theorem Spelling.subset {w : List Char} {parts : List String} (h : Spelling w parts) :
    ∀ part ∈ parts, part.toList ⊆ w := by
  induction h with
  | single h =>
    rw [List.forall_mem_singleton, String.toList_ofList]
    exact h.subset
  | cons h _ ih =>
    rw [List.forall_mem_cons, String.toList_ofList]
    refine ⟨List.subset_append_of_subset_left _ h.subset, fun part hpart => ?_⟩
    exact List.subset_append_of_subset_right _ (List.subset_cons_of_subset _ (ih part hpart))

theorem QuotedPart.eq_quote_or_mem {w part : List Char} (h : QuotedPart w part) {c : Char}
    (hc : c ∈ w) : c = '"' ∨ c ∈ part := by
  obtain ⟨hitems, -⟩ := h
  rcases List.mem_append.1 hc with hc | hc
  · rcases List.mem_cons.1 hc with rfl | hc
    · exact .inl rfl
    · exact hitems.eq_quote_or_mem hc
  · exact .inl (List.mem_singleton.1 hc)

/-- What stands in quotes has quotes, dots and the characters of its parts. -/
theorem Delimited.eq_or_mem {w : List Char} {parts : List String} (h : Delimited w parts) {c : Char}
    (hc : c ∈ w) : c = '"' ∨ c = '.' ∨ ∃ part ∈ parts, c ∈ part.toList := by
  have hpart : ∀ {w part : List Char}, QuotedPart w part → c ∈ w →
      c = '"' ∨ c ∈ (String.ofList part).toList := by
    intro w part h hc
    rw [String.toList_ofList]
    exact h.eq_quote_or_mem hc
  induction h with
  | single h =>
    rcases hpart h hc with hquote | hmem
    · exact .inl hquote
    · exact .inr (.inr ⟨_, List.mem_cons_self, hmem⟩)
  | cons h _ ih =>
    rcases List.mem_append.1 hc with hc | hc
    · rcases hpart h hc with hquote | hmem
      · exact .inl hquote
      · exact .inr (.inr ⟨_, List.mem_cons_self, hmem⟩)
    · rcases List.mem_cons.1 hc with hdot | hc
      · exact .inr (.inl hdot)
      · rcases ih hc with hquote | hdot | ⟨part, hmem, hc⟩
        · exact .inl hquote
        · exact .inr (.inl hdot)
        · exact .inr (.inr ⟨part, List.mem_cons_of_mem _ hmem, hc⟩)

theorem wellFormed_of_spelling {w : List Char} {i : Ident} (h : Spelling w i.parts)
    (hnul : '\x00' ∉ w) : i.WellFormed :=
  ⟨h.parts_ne_nil, h.part_ne_empty, fun part hpart hmem => hnul (h.subset part hpart hmem)⟩

/-! ## Identifiers -/

theorem toList_text (i : Ident) : i.text.toList = i.chars := String.toList_ofList

/-- The reader finds just those identifiers again that are well-formed. -/
theorem parse_text_iff (i : Ident) : parse i.text = .ok i ↔ i.WellFormed := by
  rw [parse_eq_ok_iff, toList_text]
  constructor
  · rintro ⟨hnul, hspelled⟩
    exact wellFormed_of_spelling hspelled hnul
  · intro h
    have hdelimited := delimited_chars h.parts_ne_nil h.part_ne_empty
    refine ⟨fun hnul => ?_, hdelimited.spelling⟩
    rcases hdelimited.eq_or_mem hnul with hquote | hdot | ⟨part, hpart, hmem⟩
    · exact absurd hquote (by decide)
    · exact absurd hdot (by decide)
    · exact h.nul_notMem part hpart hmem

/-- Behind a part the reader stands where the part ends, so the part and the rest are determined
by the text. -/
theorem partChars_append_inj {part part' : String} {rest rest' : List Char}
    (hrest : rest.head? ≠ some '"') (hrest' : rest'.head? ≠ some '"')
    (h : partChars part ++ rest = partChars part' ++ rest') : part = part' ∧ rest = rest' := by
  have hread (part : String) {rest : List Char} (hrest : rest.head? ≠ some '"') :
      readQuoted (partChars part ++ rest).tail = some (part.toList, rest) := by
    have hitems := readQuoted_of_items (items_flatMap part.toList) hrest
    simpa [partChars] using hitems
  have heq := hread part hrest
  rw [h, hread part' hrest'] at heq
  obtain ⟨hpart, hrest⟩ := Prod.mk.inj (Option.some.inj heq)
  exact ⟨String.toList_injective hpart.symm, hrest.symm⟩

/-- The parts behind the first, each behind a dot. -/
def dottedChars (parts : List String) : List Char := parts.flatMap fun part => '.' :: partChars part

theorem chars_cons (part : String) (parts : List String) :
    chars ⟨part :: parts⟩ = partChars part ++ dottedChars parts := by
  rw [chars, List.map_cons, intercalate_cons, List.flatMap_map]
  rfl

theorem head?_dottedChars_ne (parts : List String) : (dottedChars parts).head? ≠ some '"' := by
  cases parts with
  | nil => exact nofun
  | cons part parts =>
    rw [dottedChars, List.flatMap_cons, List.cons_append, List.head?_cons]
    decide

theorem dottedChars_injective : Function.Injective dottedChars := by
  intro parts parts' h
  induction parts generalizing parts' with
  | nil =>
    cases parts' with
    | nil => rfl
    | cons => cases h
  | cons part parts ih =>
    cases parts' with
    | nil => cases h
    | cons part' parts' =>
      obtain ⟨rfl, hrest⟩ := partChars_append_inj (head?_dottedChars_ne parts)
        (head?_dottedChars_ne parts') (List.cons.inj h).2
      rw [ih hrest]

/-- No two identifiers have one text, not even such as have empty parts. -/
theorem text_injective : Function.Injective text := by
  rintro ⟨parts⟩ ⟨parts'⟩ h
  have hchars := congrArg String.toList h
  rw [toList_text, toList_text] at hchars
  cases parts with
  | nil =>
    cases parts' with
    | nil => rfl
    | cons part' parts' =>
      rw [chars_cons] at hchars
      cases hchars
  | cons part parts =>
    cases parts' with
    | nil =>
      rw [chars_cons] at hchars
      cases hchars
    | cons part' parts' =>
      rw [chars_cons, chars_cons] at hchars
      obtain ⟨rfl, hrest⟩ := partChars_append_inj (head?_dottedChars_ne parts)
        (head?_dottedChars_ne parts') hchars
      rw [dottedChars_injective hrest]

/-- The star is no identifier. -/
theorem parse_star : parse "*" = .error (.badCharacter '*' "*") := by
  decide +kernel

/-- A spelling without dots and without a quote in front is the part itself. -/
theorem Spelling.eq_singleton {text : String} {parts : List String} (h : Spelling text.toList parts)
    (hdot : '.' ∉ text.toList) (hquote : text.toList.head? ≠ some '"') : parts = [text] := by
  generalize hw : text.toList = w at h
  cases h with
  | single h =>
    cases h with
    | bare => rw [← hw, String.ofList_toList]
    | quoted h =>
      cases h
      rw [hw] at hquote
      exact absurd rfl hquote
  | cons =>
    rw [hw] at hdot
    exact absurd (List.mem_append_right _ List.mem_cons_self) hdot

end Ident

/-! ## Names -/

namespace Name

/-- What the parser of identifiers accepts is the same name, also where it is not asked. -/
theorem parse_of_parse_ident {s : String} {i : Ident} (h : Ident.parse s = .ok i) :
    parse s = .ok (.ident i) := by
  obtain ⟨hnul, hspelled⟩ := Ident.parse_eq_ok_iff.1 h
  have hstar : s ≠ "*" := by
    rintro rfl
    rw [Ident.parse_star] at h
    cases h
  by_cases hdivided : '.' ∈ s.toList ∨ s.toList.head? = some '"'
  · rw [parse, if_neg hstar, if_pos hdivided, h]
    rfl
  · obtain ⟨hdot, hquote⟩ := not_or.1 hdivided
    have hparts := hspelled.eq_singleton hdot hquote
    have hne : s ≠ "" := by
      rintro rfl
      exact hspelled.ne_nil rfl
    rw [parse_of_isPlain ⟨hstar, hdot, hquote⟩ hne hnul]
    exact congrArg (Except.ok ∘ Name.ident ∘ Ident.mk) hparts.symm

theorem parse_eq_ident_iff {text : String} {i : Ident} :
    parse text = .ok (.ident i) ↔ Denotes text i.parts := by
  constructor
  · intro h
    refine ⟨fun hnul => ?_, ?_⟩
    · rw [parse] at h
      split at h
      · cases h
      · split at h
        · obtain ⟨i, hi, -⟩ := exists_of_map_eq_ok h
          exact (Ident.parse_eq_ok_iff.1 hi).1 hnul
        · split at h <;> cases h
    · rcases plain_or_spelling h with ⟨hplain, hne, rfl⟩ | hspelled
      · exact .inl ⟨hplain, hne, rfl⟩
      · exact .inr hspelled
  · rintro ⟨hnul, ⟨hplain, hne, hparts⟩ | hspelled⟩
    · rw [parse_of_isPlain hplain hne hnul]
      exact congrArg (Except.ok ∘ Name.ident ∘ Ident.mk) hparts.symm
    · exact parse_of_parse_ident (Ident.parse_eq_ok_iff.2 ⟨hnul, hspelled⟩)

theorem Denotes.wellFormed {text : String} {i : Ident} (h : Denotes text i.parts) :
    i.WellFormed := by
  obtain ⟨hnul, ⟨-, hne, hparts⟩ | hspelled⟩ := h
  · refine ⟨?_, ?_, ?_⟩ <;> rw [hparts]
    · exact List.cons_ne_nil _ _
    · exact List.forall_mem_singleton.2 hne
    · exact List.forall_mem_singleton.2 hnul
  · exact Ident.wellFormed_of_spelling hspelled hnul

theorem quote_star : quote "*" = .ok "*" := rfl

theorem quote_of_denotes {text : String} {i : Ident} (h : Denotes text i.parts) :
    quote text = .ok i.text := by
  rw [quote, parse_eq_ident_iff.2 h, Ident.text]
  show Except.ok (Sql.text [.name (.ident i)]) = _
  rw [Sql.text, Sql.chars_cons, Sql.chars_nil, List.append_nil]
  rfl

theorem quote_of_parse_ident {s : String} {i : Ident} (h : Ident.parse s = .ok i) :
    quote s = .ok i.text :=
  quote_of_denotes (parse_eq_ident_iff.1 (parse_of_parse_ident h))

/-- An accepted name is the star or an identifier. -/
theorem quote_eq_ok_iff {s t : String} :
    quote s = .ok t ↔ (s = "*" ∧ t = "*") ∨ ∃ i : Ident, Denotes s i.parts ∧ i.text = t := by
  constructor
  · intro h
    obtain ⟨n, hn, -⟩ := exists_of_map_eq_ok h
    cases n with
    | all =>
      obtain rfl := parse_eq_all_iff.1 hn
      exact .inl ⟨rfl, (Except.ok.inj h).symm⟩
    | ident i =>
      have hdenotes := parse_eq_ident_iff.1 hn
      rw [quote_of_denotes hdenotes] at h
      exact .inr ⟨i, hdenotes, Except.ok.inj h⟩
  · rintro (⟨rfl, rfl⟩ | ⟨i, hdenotes, rfl⟩)
    · exact quote_star
    · exact quote_of_denotes hdenotes

theorem quote_quote {s t : String} (h : quote s = .ok t) : quote t = .ok t := by
  rcases quote_eq_ok_iff.1 h with ⟨-, rfl⟩ | ⟨i, hdenotes, rfl⟩
  · exact quote_star
  · exact quote_of_parse_ident ((Ident.parse_text_iff i).2 hdenotes.wellFormed)

theorem Denotes.text_ne_star {s : String} {i : Ident} (h : Denotes s i.parts) : i.text ≠ "*" := by
  intro hstar
  have hparse := (Ident.parse_text_iff i).2 h.wellFormed
  rw [hstar, Ident.parse_star] at hparse
  cases hparse

end Name

/-! ## Top theorem -/

/-- **Identifiers are read back.**  An identifier is found again in its text exactly if it is
well-formed, and no two have one text.  What the parser accepts is well-formed and is quoted as
the text of what was read.  To quote a name again changes nothing, and two texts are accepted
and quoted alike exactly if both are the star or they denote the same parts. -/
theorem identifiers_read_back :
    (∀ i : Ident, Ident.parse i.text = .ok i ↔ i.WellFormed) ∧
    Function.Injective Ident.text ∧
    (∀ s i, Ident.parse s = .ok i → i.WellFormed ∧ Name.quote s = .ok i.text) ∧
    (∀ s t, Name.quote s = .ok t → Name.quote t = .ok t) ∧
    ∀ a b, (∃ t, Name.quote a = .ok t ∧ Name.quote b = .ok t) ↔
      (a = "*" ∧ b = "*") ∨ ∃ parts, Name.Denotes a parts ∧ Name.Denotes b parts := by
  refine ⟨Ident.parse_text_iff, Ident.text_injective, fun s i h => ?_,
    fun _ _ => Name.quote_quote, fun a b => ⟨?_, ?_⟩⟩
  · obtain ⟨hnul, hspelled⟩ := Ident.parse_eq_ok_iff.1 h
    exact ⟨Ident.wellFormed_of_spelling hspelled hnul, Name.quote_of_parse_ident h⟩
  · rintro ⟨t, ha, hb⟩
    rcases Name.quote_eq_ok_iff.1 ha with ⟨rfl, rfl⟩ | ⟨i, hi, rfl⟩
    · rcases Name.quote_eq_ok_iff.1 hb with ⟨rfl, -⟩ | ⟨j, hj, htext⟩
      · exact .inl ⟨rfl, rfl⟩
      · exact absurd htext hj.text_ne_star
    · rcases Name.quote_eq_ok_iff.1 hb with ⟨-, htext⟩ | ⟨j, hj, htext⟩
      · exact absurd htext hi.text_ne_star
      · obtain rfl := Ident.text_injective htext
        exact .inr ⟨_, hi, hj⟩
  · rintro (⟨rfl, rfl⟩ | ⟨parts, ha, hb⟩)
    · exact ⟨"*", Name.quote_star, Name.quote_star⟩
    · exact ⟨_, Name.quote_of_denotes (i := ⟨parts⟩) ha, Name.quote_of_denotes (i := ⟨parts⟩) hb⟩

/-- Parts that look like the marks around them, and a name that is spelled in two ways. -/
theorem identifiers_read_back_marks :
    Ident.parse (⟨["\"\"", "a.b", "*", "é "]⟩ : Ident).text = .ok ⟨["\"\"", "a.b", "*", "é "]⟩ ∧
    Name.quote "\"\"\"\"\"\".\"a.b\"" = .ok "\"\"\"\"\"\".\"a.b\"" ∧
    ∃ t, Name.quote "a$1" = .ok t ∧ Name.quote "\"a$1\"" = .ok t := by
  refine ⟨(identifiers_read_back.1 _).2 ⟨by decide, by decide, by decide⟩, ?_, ?_⟩
  · exact identifiers_read_back.2.2.2.1 "\"\"\"\"\"\".\"a.b\"" _ (by decide +kernel)
  · exact ⟨"\"a$1\"", by decide +kernel, identifiers_read_back.2.2.2.1 "a$1" _ (by decide +kernel)⟩

end TypedSql
