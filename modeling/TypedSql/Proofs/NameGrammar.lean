import TypedSql.Sql.Render

/-!
# The grammar of identifiers

An identifier is spelled as parts with a dot between each two:

    identifier  =  part { "." part }
    part        =  bare | quoted
    bare        =  ( letter | "_" ) { letter | digit | "_" | "$" }
    quoted      =  '"' item { item } '"'         item  =  any character but '"', or '""'

`Spelling cs parts` says that `cs` is spelled by this grammar and that `parts` are the bare
texts and the contents of the quotes, with each doubled quote taken as one.  The reader finds
just these:

    Ident.parse s = .ok i  ↔  s holds no NUL and Spelling s.toList i.parts
                                                                    (parse_reads_grammar)

Each reader of the parser has a rule in either direction, for any rest of the text that can
follow.  A name other than the star is such an identifier, or a plain text that is one part as
it stands (`Name.plain_or_spelling`).
-/

namespace TypedSql

theorem exists_of_map_eq_ok {ε α β : Type} {x : Except ε α} {f : α → β} {b : β}
    (h : x.map f = .ok b) : ∃ a, x = .ok a ∧ f a = b := by
  cases x with
  | error e => cases h
  | ok a => exact ⟨a, rfl, Except.ok.inj h⟩

namespace Ident

/-! ## Grammar -/

def IsLetter (c : Char) : Prop := ('A' ≤ c ∧ c ≤ 'Z') ∨ ('a' ≤ c ∧ c ≤ 'z')

def IsDigit (c : Char) : Prop := '0' ≤ c ∧ c ≤ '9'

/-- Items between quotes, and the characters that they stand for. -/
inductive Items : List Char → List Char → Prop
  | nil : Items [] []
  | char {c : Char} {w part : List Char} (hc : c ≠ '"') (h : Items w part) :
    Items (c :: w) (c :: part)
  | quote {w part : List Char} (h : Items w part) : Items ('"' :: '"' :: w) ('"' :: part)

/-- One or more items in quotes. -/
inductive QuotedPart : List Char → List Char → Prop
  | quoted {w part : List Char} (h : Items w part) (hne : part ≠ []) :
    QuotedPart ('"' :: w ++ ['"']) part

inductive PartSpelling : List Char → List Char → Prop
  | bare {c : Char} {cs : List Char} (hc : IsLetter c ∨ c = '_')
    (hcs : ∀ d ∈ cs, IsLetter d ∨ IsDigit d ∨ d = '_' ∨ d = '$') :
    PartSpelling (c :: cs) (c :: cs)
  | quoted {w part : List Char} (h : QuotedPart w part) : PartSpelling w part

/-- Parts as `P` spells them, with a dot between each two. -/
inductive Dotted (P : List Char → List Char → Prop) : List Char → List String → Prop
  | single {w part : List Char} (h : P w part) : Dotted P w [String.ofList part]
  | cons {w part ws : List Char} {parts : List String} (h : P w part) (hws : Dotted P ws parts) :
    Dotted P (w ++ '.' :: ws) (String.ofList part :: parts)

abbrev Spelling : List Char → List String → Prop := Dotted PartSpelling

/-! ## Characters -/

theorem isAlpha_iff (c : Char) : c.isAlpha = true ↔ IsLetter c := by
  have halpha : c.isAlpha = (decide ('A' ≤ c ∧ c ≤ 'Z') ||
      (decide ('a' ≤ c) && decide (c ≤ 'z'))) := rfl
  rw [halpha, Bool.or_eq_true, Bool.and_eq_true, decide_eq_true_eq, decide_eq_true_eq,
    decide_eq_true_eq, IsLetter]

theorem isDigit_iff (c : Char) : c.isDigit = true ↔ IsDigit c := by
  have hdigit : c.isDigit = (decide ('0' ≤ c) && decide (c ≤ '9')) := rfl
  rw [hdigit, Bool.and_eq_true, decide_eq_true_eq, decide_eq_true_eq, IsDigit]

theorem isBareStart_iff (c : Char) : isBareStart c = true ↔ IsLetter c ∨ c = '_' := by
  rw [isBareStart, Bool.or_eq_true, decide_eq_true_eq, isAlpha_iff, or_comm]

theorem isBareChar_iff (c : Char) :
    isBareChar c = true ↔ IsLetter c ∨ IsDigit c ∨ c = '_' ∨ c = '$' := by
  have hbare : isBareChar c = (decide (c = '_') || decide (c = '$') || (c.isAlpha || c.isDigit)) :=
    rfl
  rw [hbare, Bool.or_eq_true, Bool.or_eq_true, Bool.or_eq_true, decide_eq_true_eq,
    decide_eq_true_eq, isAlpha_iff, isDigit_iff, or_comm, or_assoc]

/-! ## Readers -/

/-- What can follow a part: nothing, or a dot. -/
def EndsPart (rest : List Char) : Prop := ∀ c ∈ rest.head?, c = '.'

theorem EndsPart.head?_ne {rest : List Char} (h : EndsPart rest) : rest.head? ≠ some '"' := by
  intro hquote
  cases h '"' hquote

/-- A closing quote is a quote that no other follows. -/
theorem readQuoted_of_items {w part rest : List Char} (h : Items w part)
    (hrest : rest.head? ≠ some '"') : readQuoted (w ++ '"' :: rest) = some (part, rest) := by
  induction h with
  | nil =>
    rw [List.nil_append, readQuoted]
    rintro cs rfl
    exact hrest rfl
  | char hc _ ih =>
    rw [List.cons_append, readQuoted, ih]
    · rfl
    · exact fun _ hquote _ => hc hquote
    · exact hc
  | quote _ ih =>
    rw [List.cons_append, List.cons_append, readQuoted, ih]
    rfl

theorem items_of_readQuoted {cs part rest : List Char} (h : readQuoted cs = some (part, rest)) :
    ∃ w, Items w part ∧ cs = w ++ '"' :: rest := by
  induction cs using readQuoted.induct generalizing part rest with
  | case1 => cases h
  | case2 cs ih =>
    rw [readQuoted, Option.map_eq_some_iff] at h
    obtain ⟨⟨part, rest⟩, hread, ⟨⟩⟩ := h
    obtain ⟨w, hw, rfl⟩ := ih hread
    exact ⟨_, .quote hw, rfl⟩
  | case3 cs hne =>
    rw [readQuoted] at h
    · cases h
      exact ⟨[], .nil, rfl⟩
    · exact hne
  | case4 c cs hne hc ih =>
    rw [readQuoted] at h
    · obtain ⟨⟨part, rest⟩, hread, ⟨⟩⟩ := Option.map_eq_some_iff.1 h
      obtain ⟨w, hw, rfl⟩ := ih hread
      exact ⟨_, .char hc hw, rfl⟩
    · exact hne
    · exact hc

theorem readBare_append {part rest : List Char} (hpart : ∀ c ∈ part, isBareChar c = true)
    (hrest : EndsPart rest) : readBare (part ++ rest) = .ok (part, rest) := by
  induction part with
  | nil =>
    cases rest with
    | nil => rfl
    | cons c rest =>
      rw [List.nil_append, readBare, if_pos (hrest c rfl)]
  | cons c part ih =>
    obtain ⟨hc, hpart⟩ := List.forall_mem_cons.1 hpart
    have hdot : c ≠ '.' := by
      rintro rfl
      exact absurd hc (by decide)
    rw [List.cons_append, readBare, if_neg hdot, if_pos hc, ih hpart]
    rfl

/-- A bare part is read up to a dot or the end. -/
theorem bare_of_readBare {cs part rest : List Char} (h : readBare cs = .ok (part, rest)) :
    cs = part ++ rest ∧ ∀ c ∈ part, isBareChar c = true := by
  induction cs generalizing part rest with
  | nil =>
    cases h
    exact ⟨rfl, nofun⟩
  | cons c cs ih =>
    rw [readBare] at h
    split at h
    · cases h
      exact ⟨rfl, nofun⟩
    · split at h
      · next hbare =>
        obtain ⟨⟨part, rest⟩, hread, ⟨⟩⟩ := exists_of_map_eq_ok h
        obtain ⟨rfl, hpart⟩ := ih hread
        exact ⟨rfl, List.forall_mem_cons.2 ⟨hbare, hpart⟩⟩
      · cases h

/-- In front of a dot or the end a part is read as it is spelled. -/
theorem readPart_append {input : String} {w part rest : List Char} (h : PartSpelling w part)
    (hrest : EndsPart rest) : readPart input (w ++ rest) = .ok (part, rest) := by
  cases h with
  | @bare c cs hc hcs =>
    have hstart := (isBareStart_iff c).2 hc
    have hne : ∀ d, isBareStart d = false → c ≠ d := by
      rintro d hd rfl
      rw [hstart] at hd
      cases hd
    have hbare : readBare (cs ++ rest) = .ok (cs, rest) :=
      readBare_append (fun d hd => (isBareChar_iff d).2 (hcs d hd)) hrest
    rw [List.cons_append, readPart, if_neg (hne '.' (by decide)), if_pos hstart, hbare]
    exact hne '"' (by decide)
  | quoted h =>
    obtain ⟨hitems, hne⟩ := h
    rw [List.cons_append, List.cons_append, List.append_assoc, readPart,
      List.singleton_append, readQuoted_of_items hitems hrest.head?_ne]
    cases part with
    | nil => exact absurd rfl hne
    | cons c part => rfl

theorem spelling_of_readPart {input : String} {cs part rest : List Char}
    (h : readPart input cs = .ok (part, rest)) : ∃ w, PartSpelling w part ∧ cs = w ++ rest := by
  unfold readPart at h
  split at h
  · cases h
  · next cs =>
    split at h
    · cases h
    · cases h
    · next part rest hne hread =>
      cases h
      obtain ⟨w, hw, rfl⟩ := items_of_readQuoted hread
      have hpart : part ≠ [] := by
        rintro rfl
        exact hne rfl
      refine ⟨'"' :: w ++ ['"'], .quoted ⟨hw, hpart⟩, ?_⟩
      rw [List.append_assoc]
      rfl
  · next c cs _ =>
    split at h
    · cases h
    · split at h
      · next hstart =>
        split at h
        · next part rest hread =>
          cases h
          obtain ⟨rfl, hpart⟩ := bare_of_readBare hread
          exact ⟨c :: part, .bare ((isBareStart_iff c).1 hstart)
            fun d hd => (isBareChar_iff d).1 (hpart d hd), rfl⟩
        · cases h
      · cases h

/-- The parser takes one part and then, behind a dot, the others. -/
theorem readParts_eq (input : String) (cs : List Char) :
    readParts input cs = (readPart input cs).bind fun p =>
      match p.2 with
      | [] => .ok [String.ofList p.1]
      | c :: rest =>
        if c ≠ '.' then .error (.missingDot c input)
        else if rest.isEmpty then .error (.trailingDot input)
        else (readParts input rest).map (String.ofList p.1 :: ·) := by
  rw [readParts]
  split
  · next hread => rw [hread]; rfl
  · next hread => rw [hread]; rfl
  · next hread => rw [hread]; rfl

theorem readParts_of_spelling {input : String} {cs : List Char} {parts : List String}
    (h : Spelling cs parts) : readParts input cs = .ok parts := by
  induction h with
  | @single w part hpart =>
    have hread : readPart input (w ++ []) = .ok (part, []) := readPart_append hpart nofun
    rw [List.append_nil] at hread
    rw [readParts_eq, hread]
    rfl
  | @cons w part ws parts hpart hws ih =>
    have hread : readPart input (w ++ '.' :: ws) = .ok (part, '.' :: ws) :=
      readPart_append hpart fun _ h => (Option.some.inj h).symm
    have hws : ¬ ws.isEmpty = true := by
      rw [List.isEmpty_iff]
      rintro rfl
      rw [readParts_eq] at ih
      cases ih
    rw [readParts_eq, hread]
    refine (if_neg hws).trans ?_
    rw [ih]
    rfl

theorem spelling_of_readParts {input : String} {cs : List Char} {parts : List String}
    (h : readParts input cs = .ok parts) : Spelling cs parts := by
  induction cs using readParts.induct input generalizing parts with
  | case1 cs fault hread =>
    rw [readParts_eq, hread] at h
    cases h
  | case2 cs part hread =>
    rw [readParts_eq, hread] at h
    cases h
    obtain ⟨w, hw, rfl⟩ := spelling_of_readPart hread
    rw [List.append_nil]
    exact .single hw
  | case3 cs part c rest hread hdot =>
    rw [readParts_eq, hread] at h
    cases (if_pos hdot).symm.trans h
  | case4 cs part c rest hread hdot hrest =>
    rw [readParts_eq, hread] at h
    cases ((if_neg hdot).trans (if_pos hrest)).symm.trans h
  | case5 cs part c rest hread hdot hrest ih =>
    rw [readParts_eq, hread] at h
    obtain ⟨parts, hparts, rfl⟩ :=
      exists_of_map_eq_ok (((if_neg hdot).trans (if_neg hrest)).symm.trans h)
    obtain ⟨w, hw, rfl⟩ := spelling_of_readPart hread
    rw [Decidable.not_not.1 hdot]
    exact .cons hw (ih hparts)

theorem readParts_eq_ok_iff {input : String} {cs : List Char} {parts : List String} :
    readParts input cs = .ok parts ↔ Spelling cs parts :=
  ⟨spelling_of_readParts, readParts_of_spelling⟩

/-- What is spelled determines the parts. -/
theorem Spelling.parts_unique {w : List Char} {parts parts' : List String}
    (h : Spelling w parts) (h' : Spelling w parts') : parts = parts' := by
  have hread : readParts "" w = .ok parts := readParts_of_spelling h
  rw [readParts_of_spelling h'] at hread
  exact (Except.ok.inj hread).symm

theorem PartSpelling.ne_nil {w part : List Char} (h : PartSpelling w part) : w ≠ [] := by
  cases h with
  | bare => exact List.cons_ne_nil _ _
  | quoted h => cases h; exact List.cons_ne_nil _ _

theorem Spelling.ne_nil {w : List Char} {parts : List String} (h : Spelling w parts) : w ≠ [] := by
  cases h with
  | single h => exact h.ne_nil
  | cons h _ => exact List.append_ne_nil_of_left_ne_nil h.ne_nil _

theorem Dotted.parts_ne_nil {P : List Char → List Char → Prop} {w : List Char}
    {parts : List String} (h : Dotted P w parts) : parts ≠ [] := by
  cases h <;> exact List.cons_ne_nil _ _

theorem Dotted.single_iff {P : List Char → List Char → Prop} {w : List Char} {part : String} :
    Dotted P w [part] ↔ P w part.toList := by
  constructor
  · intro h
    generalize hparts : [part] = parts at h
    cases h with
    | single h =>
      cases hparts
      rwa [String.toList_ofList]
    | cons _ htail => exact absurd (List.cons.inj hparts).2.symm htail.parts_ne_nil
  · intro h
    rw [← String.ofList_toList (s := part)]
    exact .single h

theorem PartSpelling.part_ne_nil {w part : List Char} (h : PartSpelling w part) : part ≠ [] := by
  cases h with
  | bare => exact List.cons_ne_nil _ _
  | quoted h => cases h; assumption

theorem Spelling.part_ne_empty {w : List Char} {parts : List String} (h : Spelling w parts) :
    ∀ part ∈ parts, part ≠ "" := by
  have hpart : ∀ {w part}, PartSpelling w part → String.ofList part ≠ "" := fun h hempty =>
    h.part_ne_nil (String.ofList_eq_empty_iff.1 hempty)
  induction h with
  | single h => exact List.forall_mem_singleton.2 (hpart h)
  | cons h _ ih => exact List.forall_mem_cons.2 ⟨hpart h, ih⟩

theorem parse_eq_ok_iff {s : String} {i : Ident} :
    parse s = .ok i ↔ '\x00' ∉ s.toList ∧ Spelling s.toList i.parts := by
  rw [parse]
  split
  · next hempty =>
    constructor
    · rintro ⟨⟩
    · rintro ⟨-, h⟩
      exact absurd (List.isEmpty_iff.1 hempty) h.ne_nil
  · split
    · next hnul =>
      constructor
      · rintro ⟨⟩
      · rintro ⟨h, -⟩
        exact absurd hnul h
    · next hnul =>
      rw [← readParts_eq_ok_iff]
      constructor
      · intro h
        obtain ⟨parts, hparts, rfl⟩ := exists_of_map_eq_ok h
        exact ⟨hnul, hparts⟩
      · rintro ⟨-, hparts⟩
        rw [hparts]
        rfl

end Ident

/-! ## Names -/

namespace Name

/-- The text is taken as one part as it stands: it is not the star, has no dot in it and no quote
in front. -/
def IsPlain (text : String) : Prop :=
  text ≠ "*" ∧ '.' ∉ text.toList ∧ text.toList.head? ≠ some '"'

instance (text : String) : Decidable (IsPlain text) :=
  inferInstanceAs (Decidable (_ ∧ _ ∧ _))

theorem parse_eq_all_iff {text : String} : parse text = .ok .all ↔ text = "*" := by
  constructor
  · intro h
    rw [parse] at h
    split at h
    · assumption
    · split at h
      · obtain ⟨_, -, ⟨⟩⟩ := exists_of_map_eq_ok h
      · split at h
        · cases h
        · split at h <;> cases h
  · rintro rfl
    rfl

theorem parse_of_isPlain {text : String} (h : IsPlain text) (hne : text ≠ "")
    (hnul : '\x00' ∉ text.toList) : parse text = .ok (.ident (.single text)) := by
  have hempty : ¬ text.toList.isEmpty = true := by
    rw [List.isEmpty_iff, String.toList_eq_nil_iff]
    exact hne
  rw [parse, if_neg h.1, if_neg (not_or.2 h.2), if_neg hempty, if_neg hnul]

/-- A name that is not the star is plain, or an identifier of the grammar. -/
theorem plain_or_spelling {text : String} {i : Ident} (h : parse text = .ok (.ident i)) :
    (IsPlain text ∧ text ≠ "" ∧ i = .single text) ∨ Ident.Spelling text.toList i.parts := by
  rw [parse] at h
  split at h
  · cases h
  · next hstar =>
    split at h
    · obtain ⟨i', hi, ⟨⟩⟩ := exists_of_map_eq_ok h
      exact .inr (Ident.parse_eq_ok_iff.1 hi).2
    · next hdivided =>
      split at h
      · cases h
      · next hempty =>
        split at h
        · cases h
        · cases h
          refine .inl ⟨⟨hstar, not_or.1 hdivided⟩, ?_, rfl⟩
          rintro rfl
          exact hempty rfl

end Name

/-! ## Top theorem -/

/-- **The reader reads the grammar.**  A text is read as an identifier exactly if it holds no NUL
and is spelled by the grammar, and then its parts are the bare texts and the contents of the
quotes, in their order.  On every other text the reader ends too, with a render error. -/
theorem parse_reads_grammar (s : String) :
    (∀ i, Ident.parse s = .ok i ↔ '\x00' ∉ s.toList ∧ Ident.Spelling s.toList i.parts) ∧
    ((∃ i, Ident.parse s = .ok i) ↔
      '\x00' ∉ s.toList ∧ ∃ parts, Ident.Spelling s.toList parts) ∧
    ((∃ fault, Ident.parse s = .error fault ∧
        (RenderFault.badName fault).toError = .render fault.message) ↔
      ¬ ('\x00' ∉ s.toList ∧ ∃ parts, Ident.Spelling s.toList parts)) := by
  have hread : (∃ i, Ident.parse s = .ok i) ↔
      '\x00' ∉ s.toList ∧ ∃ parts, Ident.Spelling s.toList parts := by
    constructor
    · rintro ⟨i, hi⟩
      obtain ⟨hnul, hspelled⟩ := Ident.parse_eq_ok_iff.1 hi
      exact ⟨hnul, i.parts, hspelled⟩
    · rintro ⟨hnul, parts, hspelled⟩
      exact ⟨⟨parts⟩, Ident.parse_eq_ok_iff.2 ⟨hnul, hspelled⟩⟩
  refine ⟨fun i => Ident.parse_eq_ok_iff, hread, ?_⟩
  rw [← hread]
  cases Ident.parse s with
  | ok i =>
    constructor
    · rintro ⟨fault, ⟨⟩, -⟩
    · exact fun hnone => absurd ⟨i, rfl⟩ hnone
  | error fault =>
    constructor
    · rintro - ⟨i, ⟨⟩⟩
    · exact fun _ => ⟨fault, rfl, rfl⟩

end TypedSql
