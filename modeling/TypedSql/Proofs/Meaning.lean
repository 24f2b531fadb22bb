import TypedSql.Proofs.Draft
import TypedSql.Proofs.Expression

/-!
# The meaning of a filter

A filter means a list of alternatives, each of them a list of atoms: one alternative
for each mapping that constrains something, the base first, and in it one atom for
each operator, in the order of the columns and the slots.

`Expr.ofMeaning` is the expression that says so, and nothing of the meaning is lost
in it:

    ((Expr.ofMeaning m).elim [] disjuncts).map atoms = m               (atoms_ofMeaning)
-/

namespace TypedSql

/-! ## Atoms -/

/-- The identifier that a text denotes. -/
def Ident.ofText (text : String) : Ident :=
  match Name.parse text with
  | .ok (.ident i) => i
  | _ => ⟨[]⟩

theorem Ident.parse_ofText {text : String} (h : ∃ i, Name.parse text = .ok (.ident i)) :
    Name.parse text = .ok (.ident (.ofText text)) := by
  obtain ⟨i, hi⟩ := h
  rw [ofText, hi]

/-- What an operator says of its column.  To be one of no values is false, and to be
none of them is true, whatever the column holds. -/
def Op.atom (column : Ident) : Op → Atom
  | .oneOf [] => .constant false
  | .noneOf [] => .constant true
  | op => .on column op

namespace Conditions

/-- The operators with their columns, in the order of the columns and the slots. -/
def predicates (c : Conditions) : List (String × Op) :=
  c.entries.flatMap fun e => e.2.ops.map fun op => (e.1, op)

/-- The atoms of a mapping, all of which have to hold. -/
def meaning (c : Conditions) : List Atom := c.predicates.map fun p => p.2.atom (.ofText p.1)

/-- Every column is a name, and none is the star. -/
def HasColumns (c : Conditions) : Prop :=
  ∀ column ∈ c.columns, ∃ i, Name.parse column = .ok (.ident i)

end Conditions

namespace Filter

/-- The mappings that constrain something. -/
def effective (f : Filter) : List Conditions := f.conditions.filter fun c => !c.predicates.isEmpty

/-- The alternatives, one of which has to hold. -/
def meaning (f : Filter) : List (List Atom) := f.effective.map Conditions.meaning

def HasColumns (f : Filter) : Prop := ∀ c ∈ f.conditions, c.HasColumns

end Filter

namespace Expr

/-- The atoms joined by AND; there is no conjunction of none. -/
def conjunction? (atoms : List Atom) : Option Expr := chain? .and (atoms.map .atom)

/-- The conjunctions of the alternatives joined by OR. -/
def ofMeaning (alternatives : List (List Atom)) : Option Expr :=
  chain? .or (alternatives.filterMap conjunction?)

def disjuncts : Expr → List Expr
  | or a b => disjuncts a ++ disjuncts b
  | e => [e]

def atoms : Expr → List Atom
  | atom a => [a]
  | and a b | or a b => atoms a ++ atoms b

theorem atoms_foldl_and (e : Expr) (as : List Atom) :
    atoms ((as.map atom).foldl and e) = atoms e ++ as := by
  induction as generalizing e with
  | nil => exact (List.append_nil _).symm
  | cons a as ih =>
    rw [List.map_cons, List.foldl_cons, ih]
    show (atoms e ++ [a]) ++ as = _
    rw [List.append_assoc, List.singleton_append]

theorem disjuncts_foldl_and (e : Expr) (he : disjuncts e = [e]) (es : List Expr) :
    disjuncts (es.foldl and e) = [es.foldl and e] := by
  induction es generalizing e with
  | nil => exact he
  | cons e' es ih => exact ih (and e e') rfl

theorem disjuncts_foldl_or (e : Expr) (es : List Expr) (h : ∀ e' ∈ es, disjuncts e' = [e']) :
    disjuncts (es.foldl or e) = disjuncts e ++ es := by
  induction es generalizing e with
  | nil => exact (List.append_nil _).symm
  | cons e' es ih =>
    rw [List.foldl_cons, ih _ fun x hx => h x (List.mem_cons_of_mem _ hx)]
    show (disjuncts e ++ disjuncts e') ++ es = _
    rw [h e' List.mem_cons_self, List.append_assoc, List.singleton_append]

/-- Every alternative gives one disjunct, and its atoms can be read off again. -/
theorem exists_conjunctions {alternatives : List (List Atom)} (h : ∀ as ∈ alternatives, as ≠ []) :
    ∃ es, alternatives.filterMap conjunction? = es ∧ (∀ e ∈ es, disjuncts e = [e]) ∧
      es.map atoms = alternatives := by
  induction alternatives with
  | nil => exact ⟨[], rfl, fun e he => absurd he List.not_mem_nil, rfl⟩
  | cons as rest ih =>
    obtain ⟨es, hes, hdis, hatoms⟩ := ih fun x hx => h x (List.mem_cons_of_mem _ hx)
    cases as with
    | nil => exact absurd rfl (h [] List.mem_cons_self)
    | cons a as =>
      have he : conjunction? (a :: as) = some ((as.map atom).foldl and (atom a)) := rfl
      refine ⟨(as.map atom).foldl and (atom a) :: es, ?_, ?_, ?_⟩
      · rw [List.filterMap_cons_some he, hes]
      · intro e hmem
        rcases List.mem_cons.1 hmem with rfl | hmem
        · exact disjuncts_foldl_and (atom a) rfl _
        · exact hdis e hmem
      · rw [List.map_cons, atoms_foldl_and, hatoms]
        rfl

/-- The alternatives can be read off an expression again. -/
theorem atoms_ofMeaning {alternatives : List (List Atom)} (h : ∀ as ∈ alternatives, as ≠ []) :
    ((ofMeaning alternatives).elim [] disjuncts).map atoms = alternatives := by
  obtain ⟨es, hes, hdis, hatoms⟩ := exists_conjunctions h
  rw [ofMeaning, hes]
  cases es with
  | nil => exact hatoms
  | cons e es =>
    show (disjuncts (es.foldl or e)).map atoms = _
    rw [disjuncts_foldl_or e es fun x hx => hdis x (List.mem_cons_of_mem _ hx),
      hdis e List.mem_cons_self, List.singleton_append, hatoms]

end Expr

end TypedSql
