/-!
# Cutting a text to a number of bytes

`takeBytes m` keeps whole characters from the front while their UTF-8 forms fit
into `m` bytes, so no character is cut in two and no longer run of whole
characters fits.  `abridge` marks the cut with three dots.
-/

namespace TypedSql.Text

/-- The longest run of whole characters from the front that takes at most `m`
bytes. -/
def takeBytes : Nat → List Char → List Char
  | _, [] => []
  | m, c :: cs => if c.utf8Size ≤ m then c :: takeBytes (m - c.utf8Size) cs else []

/-- The text itself where it fits the limit; its longest fitting front and
three dots where it does not. -/
def abridge (limit : Option Nat) (s : String) : String :=
  match limit with
  | none => s
  | some m => if s.utf8ByteSize ≤ m then s else String.ofList (takeBytes m s.toList) ++ "..."

/-! ## Lemmas -/

theorem takeBytes_isPrefix (m : Nat) (cs : List Char) : takeBytes m cs <+: cs := by
  induction cs generalizing m with
  | nil => simp [takeBytes]
  | cons c cs ih =>
    rw [takeBytes]
    split
    · exact List.cons_prefix_cons.2 ⟨rfl, ih _⟩
    · exact List.nil_prefix

end TypedSql.Text
