import Mathlib.Order.Bounds.Basic
import TypedSql.Proofs.ByteOrder
import TypedSql.Text.Truncate

/-!
# Cutting a text by its bytes

`takeBytes` keeps the longest run of whole characters that fits.  The same cut can be made by the
bytes alone, without a look at the characters: from the last byte that may stay one goes back to
where a character starts, and slices there.

    cutBytes? (bytes s) m = some (bytes (String.ofList (takeBytes m s.toList)))     (cutBytes?_eq)

A slice that does not start a character there would be none at all.  That it is one rests on what
a boundary in the bytes is, the end of a run of whole characters (`isBoundary_iff`).
-/

namespace TypedSql.Text

/-! ## Bytes -/

/-- Whether a text may be cut at a position in its bytes: at its ends, and in front of a byte
that starts a character. -/
def isBoundary (bytes : List UInt8) (i : Nat) : Bool :=
  match bytes[i]? with
  | some b => i = 0 || b < 0x80 || 0xC0 ≤ b
  | none => i = bytes.length

/-- The last boundary up to a position, one byte after the other from there backwards. -/
def boundaryUpTo (bytes : List UInt8) : Nat → Nat
  | 0 => 0
  | i + 1 => if isBoundary bytes (i + 1) then i + 1 else boundaryUpTo bytes i

/-- The bytes in front of a position, where a text may be cut. -/
def sliceTo? (bytes : List UInt8) (i : Nat) : Option (List UInt8) :=
  if isBoundary bytes i then some (bytes.take i) else none

/-- The text itself where it fits, and else its slice up to the last boundary that does. -/
def cutBytes? (bytes : List UInt8) (m : Nat) : Option (List UInt8) :=
  if bytes.length ≤ m then some bytes else sliceTo? bytes (boundaryUpTo bytes m)

/-- The front of a text that is left under a limit of bytes. -/
structure LongestFront (m : Nat) (s front : String) : Prop where
  isPrefix : front.toList <+: s.toList
  fits : front.utf8ByteSize ≤ m
  longest {other : String} : other.toList <+: s.toList → other.utf8ByteSize ≤ m →
    other.toList <+: front.toList
  whole : s.utf8ByteSize ≤ m → front = s
  tight : m < s.utf8ByteSize → m ≤ front.utf8ByteSize + 3

/-! ## Lemmas: characters -/

variable {cs front : List Char} {m i : Nat}

theorem utf8Len_takeBytes_le (m : Nat) (cs : List Char) : String.utf8Len (takeBytes m cs) ≤ m := by
  induction cs generalizing m with
  | nil => exact Nat.zero_le m
  | cons c cs ih =>
    rw [takeBytes]
    split
    · next hfits =>
      have hrest := ih (m - c.utf8Size)
      rw [String.utf8Len_cons]
      omega
    · exact Nat.zero_le m

theorem isPrefix_takeBytes (h : front <+: cs) (hm : String.utf8Len front ≤ m) :
    front <+: takeBytes m cs := by
  induction cs generalizing front m with
  | nil => exact h
  | cons c cs ih =>
    cases front with
    | nil => exact List.nil_prefix
    | cons d front =>
      obtain ⟨rfl, hfront⟩ := List.cons_prefix_cons.1 h
      rw [String.utf8Len_cons] at hm
      rw [takeBytes, if_pos (by omega)]
      exact List.cons_prefix_cons.2 ⟨rfl, ih hfront (by omega)⟩

theorem takeBytes_of_le (h : String.utf8Len cs ≤ m) : takeBytes m cs = cs :=
  (takeBytes_isPrefix m cs).eq_of_length_le (isPrefix_takeBytes List.prefix_rfl h).length_le

/-- The character that does not fit has four bytes at most. -/
theorem le_utf8Len_takeBytes (h : m < String.utf8Len cs) :
    m ≤ String.utf8Len (takeBytes m cs) + 3 := by
  induction cs generalizing m with
  | nil => cases h
  | cons c cs ih =>
    rw [String.utf8Len_cons] at h
    rw [takeBytes]
    split
    · next hfits =>
      have hrest := ih (m := m - c.utf8Size) (by omega)
      rw [String.utf8Len_cons]
      omega
    · have hsize := c.utf8Size_le_four
      omega

theorem longestFront_takeBytes (m : Nat) (s : String) :
    LongestFront m s (String.ofList (takeBytes m s.toList)) := by
  have hsize : ∀ s : String, s.utf8ByteSize = String.utf8Len s.toList := by
    intro s
    rw [← String.utf8ByteSize_ofList, String.ofList_toList]
  refine ⟨?_, ?_, fun {other} hprefix hfits => ?_, fun h => ?_, fun h => ?_⟩
  · rw [String.toList_ofList]
    exact takeBytes_isPrefix m s.toList
  · rw [String.utf8ByteSize_ofList]
    exact utf8Len_takeBytes_le m s.toList
  · rw [String.toList_ofList]
    exact isPrefix_takeBytes hprefix (hsize other ▸ hfits)
  · rw [takeBytes_of_le (hsize s ▸ h), String.ofList_toList]
  · rw [String.utf8ByteSize_ofList]
    exact le_utf8Len_takeBytes (hsize s ▸ h)

/-! ## Lemmas: boundaries -/

theorem length_flatMap_utf8EncodeChar (cs : List Char) :
    (cs.flatMap String.utf8EncodeChar).length = String.utf8Len cs := by
  induction cs with
  | nil => rfl
  | cons c cs ih =>
    rw [List.flatMap_cons, List.length_append, ih, String.length_utf8EncodeChar,
      String.utf8Len_cons, Nat.add_comm]

theorem lead_starts {n : Nat} (hn : n < 0x110000) : lead n < 128 ∨ 192 ≤ lead n := by
  unfold lead
  rcases following_cases n with ⟨h, hk⟩ | ⟨h, h', hk⟩ | ⟨h, h', hk⟩ | ⟨h, hk⟩
  all_goals
    simp only [hk, mark, Nat.reducePow]
    omega

theorem sextets_continue {k n : Nat} {b : UInt8} (h : b ∈ sextets k n) : 0x80 ≤ b ∧ b < 0xC0 := by
  induction k with
  | zero => cases h
  | succ k ih =>
    rcases List.mem_cons.1 h with rfl | h
    · rw [UInt8.le_iff_toNat_le, UInt8.lt_iff_toNat_lt, UInt8.toNat_ofNat']
      have h80 : (0x80 : UInt8).toNat = 128 := rfl
      have hC0 : (0xC0 : UInt8).toNat = 192 := rfl
      omega
    · exact ih h

theorem isBoundary_zero (bytes : List UInt8) : isBoundary bytes 0 = true := by
  cases bytes <;> rfl

/-- In front of a byte only the byte itself counts, except that a text may be cut at its start. -/
theorem isBoundary_of_append {xs ys : List UInt8}
    (h : isBoundary (xs ++ ys) (xs.length + i) = true) : isBoundary ys i = true := by
  rw [isBoundary, List.getElem?_append_right (Nat.le_add_right _ _), Nat.add_sub_cancel_left,
    List.length_append] at h
  rcases i with _ | i
  · exact isBoundary_zero ys
  · rw [isBoundary]
    cases hget : ys[i + 1]? <;> rw [hget] at h <;> simpa using h

/-- Within the bytes of a character there is no boundary. -/
theorem not_isBoundary_append (c : Char) (ys : List UInt8) (hi : 0 < i) (hc : i < c.utf8Size) :
    isBoundary (String.utf8EncodeChar c ++ ys) i = false := by
  obtain ⟨i, rfl⟩ := Nat.exists_eq_add_of_lt hi
  have hlength : i < (sextets (following c.toNat) c.toNat).length := by
    rw [← String.length_utf8EncodeChar, utf8EncodeChar_eq, List.length_cons] at hc
    omega
  have hget : (String.utf8EncodeChar c ++ ys)[0 + i + 1]? =
      some (sextets (following c.toNat) c.toNat)[i] := by
    rw [utf8EncodeChar_eq, List.cons_append, Nat.zero_add, List.getElem?_cons_succ,
      List.getElem?_append_left hlength, List.getElem?_eq_getElem hlength]
  obtain ⟨hlow, hhigh⟩ := sextets_continue (List.getElem_mem hlength)
  rw [isBoundary, hget]
  simp [UInt8.not_lt.2 hlow, UInt8.not_le.2 hhigh]

theorem isBoundary_of_isPrefix (h : front <+: cs) :
    isBoundary (cs.flatMap String.utf8EncodeChar) (String.utf8Len front) = true := by
  obtain ⟨rest, rfl⟩ := h
  rw [List.flatMap_append, isBoundary, ← length_flatMap_utf8EncodeChar,
    List.getElem?_append_right (Nat.le_refl _), Nat.sub_self]
  cases rest with
  | nil => simp
  | cons c rest =>
    have hlead := lead_lt_256 (toNat_lt c)
    rw [List.flatMap_cons, utf8EncodeChar_eq, List.cons_append, List.getElem?_cons_zero]
    simp only [Bool.or_eq_true, decide_eq_true_eq, UInt8.lt_iff_toNat_lt, UInt8.le_iff_toNat_le,
      UInt8.toNat_ofNat', Nat.mod_eq_of_lt hlead]
    rcases lead_starts (toNat_lt c) with hstarts | hstarts
    · exact .inl (.inr hstarts)
    · exact .inr hstarts

/-- The boundaries of a text are the ends of its runs of whole characters from the front. -/
theorem isBoundary_iff : isBoundary (cs.flatMap String.utf8EncodeChar) i = true ↔
    ∃ front, front <+: cs ∧ String.utf8Len front = i := by
  constructor
  · intro h
    induction cs generalizing i with
    | nil => exact ⟨[], List.nil_prefix, (of_decide_eq_true h).symm⟩
    | cons c cs ih =>
      rw [List.flatMap_cons] at h
      rcases Nat.eq_zero_or_pos i with rfl | hi
      · exact ⟨[], List.nil_prefix, rfl⟩
      rcases Nat.lt_or_ge i c.utf8Size with hc | hc
      · rw [not_isBoundary_append c _ hi hc] at h
        cases h
      · obtain ⟨i, rfl⟩ := Nat.exists_eq_add_of_le hc
        rw [← String.length_utf8EncodeChar] at h
        obtain ⟨front, hfront, hlen⟩ := ih (isBoundary_of_append h)
        refine ⟨c :: front, List.cons_prefix_cons.2 ⟨rfl, hfront⟩, ?_⟩
        rw [String.utf8Len_cons, hlen, Nat.add_comm]
  · rintro ⟨front, hfront, rfl⟩
    exact isBoundary_of_isPrefix hfront

theorem isGreatest_boundaryUpTo (bytes : List UInt8) (m : Nat) :
    IsGreatest {i | isBoundary bytes i = true ∧ i ≤ m} (boundaryUpTo bytes m) := by
  induction m with
  | zero => exact ⟨⟨isBoundary_zero bytes, Nat.le_refl 0⟩, fun i hi => hi.2⟩
  | succ m ih =>
    rw [boundaryUpTo]
    split
    · next h => exact ⟨⟨h, Nat.le_refl _⟩, fun i hi => hi.2⟩
    · next h =>
      refine ⟨⟨ih.1.1, Nat.le_succ_of_le ih.1.2⟩, fun i hi => ih.2 ⟨hi.1, ?_⟩⟩
      rcases Nat.le_succ_iff.1 hi.2 with hle | rfl
      · exact hle
      · exact absurd hi.1 h

/-- Going back from a position ends where the characters that fit in front of it end. -/
theorem boundaryUpTo_eq (m : Nat) (cs : List Char) :
    boundaryUpTo (cs.flatMap String.utf8EncodeChar) m = String.utf8Len (takeBytes m cs) := by
  refine (isGreatest_boundaryUpTo _ m).unique ⟨⟨?_, utf8Len_takeBytes_le m cs⟩, ?_⟩
  · exact isBoundary_of_isPrefix (takeBytes_isPrefix m cs)
  · rintro i ⟨hboundary, hfits⟩
    obtain ⟨front, hfront, rfl⟩ := isBoundary_iff.1 hboundary
    obtain ⟨rest, hrest⟩ := isPrefix_takeBytes hfront hfits
    rw [← hrest, String.utf8Len_append]
    exact Nat.le_add_right _ _

theorem take_of_isPrefix (h : front <+: cs) :
    (cs.flatMap String.utf8EncodeChar).take (String.utf8Len front) =
      front.flatMap String.utf8EncodeChar := by
  obtain ⟨rest, rfl⟩ := h
  rw [List.flatMap_append, ← length_flatMap_utf8EncodeChar, List.take_left]

/-- Cutting by bytes slices nowhere but at a boundary, and leaves what cutting by characters
does. -/
theorem cutBytes?_eq (s : String) (m : Nat) :
    cutBytes? (bytes s) m = some (bytes (String.ofList (takeBytes m s.toList))) := by
  have hprefix := takeBytes_isPrefix m s.toList
  rw [bytes_eq, bytes_eq, String.toList_ofList, cutBytes?, length_flatMap_utf8EncodeChar]
  split
  · next hfits => rw [takeBytes_of_le hfits]
  · rw [boundaryUpTo_eq, sliceTo?, if_pos (isBoundary_of_isPrefix hprefix),
      take_of_isPrefix hprefix]

end TypedSql.Text
