import TypedSql.Proofs.Quiet
import TypedSql.Proofs.Renaming

/-!
# Names stay inside their quotes

A scanner that toggles at every double quote ends each statement outside quotes, and
what it sees outside is the same for all names of the same shape: of a name only its
dots, or the star, are outside.

    r.Renamed r' → r.statement? = .ok (some s) → ∃ s', r'.statement? = .ok (some s') ∧
      outside false s.text.toList = outside false s'.text.toList ∧ …     (outside_eq_of_renamed)

The scanner is followed along the draft: `Leaves q cs out q'` says that it enters `cs`
inside quotes or not (`q`), sees `out` outside them and leaves with `q'`.
-/

namespace TypedSql

/-- The characters outside double quotes; `quoted` says whether a quote is open in front
of the text. -/
def outside (quoted : Bool) : List Char → List Char
  | [] => []
  | c :: cs =>
    if c = '"' then outside (!quoted) cs
    else if quoted then outside quoted cs
    else c :: outside quoted cs

/-- Whether a double quote is open behind a text. -/
def quotedAfter (quoted : Bool) : List Char → Bool
  | [] => quoted
  | c :: cs => quotedAfter (if c = '"' then !quoted else quoted) cs

def Leaves (q : Bool) (cs out : List Char) (q' : Bool) : Prop :=
  outside q cs = out ∧ quotedAfter q cs = q'

/-- What stands outside the quotes of a name. -/
def Name.outline : Name → List Char
  | all => ['*']
  | ident i => List.replicate (i.parts.length - 1) '.'

def Token.outline : Token → List Char
  | name n => n.outline
  | t => t.chars

def Sql.outline (sql : Sql) : List Char := sql.flatMap Token.outline

/-! ## The scanner on parts of a text -/

theorem Leaves.nil (q : Bool) : Leaves q [] [] q := ⟨rfl, rfl⟩

theorem outside_append (q : Bool) (a b : List Char) :
    outside q (a ++ b) = outside q a ++ outside (quotedAfter q a) b := by
  induction a generalizing q with
  | nil => rfl
  | cons c a ih =>
    simp only [List.cons_append, outside, quotedAfter]
    by_cases hquote : c = '"'
    · rw [if_pos hquote, if_pos hquote, if_pos hquote, ih]
    · rw [if_neg hquote, if_neg hquote, if_neg hquote, ih]
      split <;> rfl

theorem quotedAfter_append (q : Bool) (a b : List Char) :
    quotedAfter q (a ++ b) = quotedAfter (quotedAfter q a) b := by
  induction a generalizing q with
  | nil => rfl
  | cons c a ih => exact ih _

theorem Leaves.append {q q' q'' : Bool} {a b out out' : List Char} (ha : Leaves q a out q')
    (hb : Leaves q' b out' q'') : Leaves q (a ++ b) (out ++ out') q'' := by
  obtain ⟨rfl, rfl⟩ := ha
  obtain ⟨rfl, rfl⟩ := hb
  exact ⟨outside_append q a b, quotedAfter_append q a b⟩

/-- Inside double quotes nothing can be seen from outside. -/
theorem leaves_toggle : IsQuoteToggle (fun q cs q' => Leaves q cs [] q') false true where
  nil := Leaves.nil
  append := fun _ _ _ _ _ ha hb => ha.append hb
  opens := ⟨rfl, rfl⟩
  closes := ⟨rfl, rfl⟩
  keeps := fun c hc => by simp [Leaves, outside, quotedAfter, hc]

theorem leaves_partChars (part : String) : Leaves false (Ident.partChars part) [] false :=
  leaves_toggle.partChars part

theorem leaves_ident (i : Ident) : Leaves false i.chars (Name.ident i).outline false := by
  rw [Ident.chars, Name.outline]
  induction i.parts with
  | nil => exact Leaves.nil false
  | cons part parts ih =>
    cases parts with
    | nil => simpa using leaves_partChars part
    | cons part' parts =>
      have hdot : Leaves false ['.'] ['.'] false := ⟨rfl, rfl⟩
      rw [List.map_cons, List.map_cons, List.intercalate_cons_cons]
      exact ((leaves_partChars part).append hdot).append ih

theorem leaves_name (n : Name) : Leaves false n.chars n.outline false := by
  cases n with
  | all => exact ⟨rfl, rfl⟩
  | ident i => exact leaves_ident i

theorem leaves_plain {cs : List Char} (h : cs.all isPlain = true) : Leaves false cs cs false := by
  induction cs with
  | nil => exact Leaves.nil false
  | cons c cs ih =>
    rw [List.all_cons, Bool.and_eq_true] at h
    have hc : Leaves false [c] [c] false := by
      have hplain := h.1
      simp only [isPlain, Bool.and_eq_true, bne_iff_ne] at hplain
      simp [Leaves, outside, quotedAfter, hplain]
    exact hc.append (ih h.2)

/-! ## Drafts -/

theorem Piece.leaves {piece : Piece} (h : piece.IsQuiet fun _ => False) :
    Leaves false piece.toToken.chars piece.toToken.outline false := by
  cases piece with
  | token t =>
    cases t with
    | word s => exact leaves_plain h
    | number n => exact leaves_plain (isPlain_number n)
    | name n => exact leaves_name n
    | slot => exact absurd h id
    | raw e => exact absurd h id
  | name text =>
    show Leaves false (Token.ofText text).chars (Token.ofText text).outline false
    unfold Token.ofText
    cases Name.parse text with
    | ok n => exact leaves_name n
    | error fault => exact leaves_name .all
  | slot v => exact ⟨rfl, rfl⟩

theorem Draft.leaves {d : Draft} (h : d.IsQuiet fun _ => False) :
    Leaves false d.sql.chars (Sql.outline d.sql) false := by
  induction d with
  | nil => exact Leaves.nil false
  | cons piece d ih =>
    obtain ⟨hpiece, hd⟩ := (isQuiet_cons piece d).1 h
    exact (Piece.leaves hpiece).append (ih hd)

theorem Name.outline_eq {n n' : Name} (h : n.arity? = n'.arity?) : n.outline = n'.outline := by
  cases n with
  | all =>
    cases n' with
    | all => rfl
    | ident i' => cases h
  | ident i =>
    cases n' with
    | all => cases h
    | ident i' =>
      have hlength : i.parts.length = i'.parts.length := Option.some.inj h
      rw [outline, outline, hlength]

/-- Drafts that differ in names alone have one outline, when their names are accepted. -/
theorem Draft.outline_eq {d d' : Draft} (h : d.Alike d')
    (hread : ∀ text, .name text ∈ d → ∃ n, Name.parse text = .ok n) :
    Sql.outline d.sql = Sql.outline d'.sql := by
  induction h with
  | nil => rfl
  | @cons piece piece' d d' hpiece _ ih =>
    have hrest := ih fun text htext => hread text (List.mem_cons_of_mem _ htext)
    have hhead : piece.toToken.outline = piece'.toToken.outline := by
      cases hpiece with
      | token t => rfl
      | slot v => rfl
      | @name text text' h =>
        obtain ⟨n, hn⟩ := hread text List.mem_cons_self
        obtain ⟨n', hn', harity⟩ := h
        have htoken : Token.ofText text = .name n := by rw [Token.ofText, hn]
        have htoken' : Token.ofText text' = .name n' := by rw [Token.ofText, hn']
        rw [Piece.toToken, Piece.toToken, htoken, htoken']
        exact Name.outline_eq (harity n hn)
    show piece.toToken.outline ++ Sql.outline (sql d) =
      piece'.toToken.outline ++ Sql.outline (sql d')
    rw [hhead, hrest]

/-! ## Top theorem -/

theorem Request.Renamed.expression?_eq_none {r r' : Request} (h : r.Renamed r') :
    r.expression? = none ∧ r'.expression? = none := by
  cases h with
  | rows h | existence h => exact h.expression
  | _ => exact ⟨rfl, rfl⟩

/-- **Names stay inside their quotes.**  Where a request renders, it renders with all
other names of the same shape too.  The scanner ends both statements outside quotes,
and outside quotes they read the same, character by character. -/
theorem outside_eq_of_renamed (r r' : Request) (h : r.Renamed r') (s : Statement)
    (hs : r.statement? = .ok (some s)) :
    ∃ s', r'.statement? = .ok (some s') ∧
      quotedAfter false s.text.toList = false ∧ quotedAfter false s'.text.toList = false ∧
      outside false s.text.toList = outside false s'.text.toList := by
  obtain ⟨hfault, d, hd, rfl⟩ := Request.draft?_of_statement? hs
  obtain ⟨d', hd', hparallel⟩ := Request.exists_parallel h hd
  have hfault' := Request.fault?_of_renamed h hd hfault
  obtain ⟨he, he'⟩ := h.expression?_eq_none
  have hleaves := Draft.leaves (Request.isQuiet hd (by rw [he]; exact nofun))
  have hleaves' := Draft.leaves (Request.isQuiet hd' (by rw [he']; exact nofun))
  have hread : ∀ text, .name text ∈ d → ∃ n, Name.parse text = .ok n := by
    intro text htext
    have hsteps := ((Request.fault?_eq_none_iff r).1 hfault).1
    exact Step.firstFault?_eq_none_iff.1 hsteps text (hparallel.read text htext)
  refine ⟨d'.statement, ?_, ?_, ?_, ?_⟩
  · rw [Request.statement?_eq, hfault', hd']
    rfl
  · show quotedAfter false (String.ofList d.sql.chars).toList = false
    rw [String.toList_ofList]
    exact hleaves.2
  · show quotedAfter false (String.ofList d'.sql.chars).toList = false
    rw [String.toList_ofList]
    exact hleaves'.2
  · show outside false (String.ofList d.sql.chars).toList =
      outside false (String.ofList d'.sql.chars).toList
    rw [String.toList_ofList, String.toList_ofList, hleaves.1, hleaves'.1]
    exact Draft.outline_eq hparallel.alike hread

/-- A bounded deletion, whose names are left open. -/
def boundedDelete (table column key : String) : Delete :=
  .ofCalls table [.andWhere (.single column (.scalar (.text "\";"))),
    .orWhere (.single key (.operators (.single (.oneOf [.integer 1, .null])))),
    .orderBy key .descending, .limit 3]

theorem outside_eq_boundedDelete :
    ∃ s s', (Request.delete (boundedDelete "users" "name" "id")).statement? = .ok (some s) ∧
      (Request.delete (boundedDelete "u\" OR ?" "*/ ; --" "))\"\"")).statement? = .ok (some s') ∧
      outside false s.text.toList = outside false s'.text.toList := by
  have halike : ∀ {a b : String}, Name.parse a = .ok (.ident (.single a)) →
      Name.parse b = .ok (.ident (.single b)) → Alike a b := by
    intro a b ha hb
    refine ⟨_, hb, fun n hn => ?_⟩
    rw [ha] at hn
    cases hn
    rfl
  have htable : Alike "users" "u\" OR ?" := halike (by decide) (by decide)
  have hcolumn : Alike "name" "*/ ; --" := halike (by decide) (by decide)
  have hkey : Alike "id" "))\"\"" := halike (by decide) (by decide)
  have hrenamed : (Request.delete (boundedDelete "users" "name" "id")).Renamed
      (.delete (boundedDelete "u\" OR ?" "*/ ; --" "))\"\"")) := by
    refine .delete ⟨⟨⟨?_, ?_⟩, ?_, rfl⟩, htable⟩
    · exact .cons ⟨hcolumn, rfl⟩ .nil
    · exact .cons (.cons ⟨hkey, rfl⟩ .nil) .nil
    · exact .cons ⟨hkey, rfl⟩ .nil
  have hs : (Request.delete (boundedDelete "users" "name" "id")).statement? = .ok (some
      ⟨"DELETE FROM \"users\" WHERE rowid IN (SELECT rowid FROM \"users\"" ++
        " WHERE (\"name\" = ?) OR (\"id\" IN (?, ?)) ORDER BY \"id\" DESC LIMIT 3)",
        [.text "\";", .integer 1, .null]⟩) := by
    decide +kernel
  obtain ⟨s', hs', -, -, hout⟩ := outside_eq_of_renamed _ _ hrenamed _ hs
  exact ⟨_, s', hs, hs', hout⟩

end TypedSql
