import Mathlib.Data.String.Basic

/-!
# The order of bytes

A text is less than another by its code points just when it is by the bytes of its UTF-8 form:

    Text.bytes a < Text.bytes b ↔ a < b                                        (bytes_lt_iff)

A code point is written as a leading byte and up to three bytes of six bits (`sextets`).  Of two
code points the greater has the greater leading byte, or else as many bytes with the same leading
one (`lead_lt_or`), and then it is the greater in the first sextet in which they differ.
-/

namespace TypedSql.Text

/-- The bytes of a text in UTF-8. -/
def bytes (s : String) : List UInt8 := s.toUTF8.data.toList

/-! ## One code point -/

/-- How many bytes follow the leading one. -/
def following (n : Nat) : Nat :=
  if n ≤ 127 then 0 else if n ≤ 2047 then 1 else if n ≤ 65535 then 2 else 3

/-- The leading byte starts with as many ones as there are bytes. -/
def mark : Nat → Nat
  | 0 => 0
  | 1 => 192
  | 2 => 224
  | _ => 240

def lead (n : Nat) : Nat := n / 64 ^ following n + mark (following n)

/-- The last `k` digits of a number to the base of 64, each in a byte of its own. -/
def sextets : Nat → Nat → List UInt8
  | 0, _ => []
  | k + 1, n => UInt8.ofNat (n / 64 ^ k % 64 + 128) :: sextets k n

theorem following_cases (n : Nat) :
    n ≤ 127 ∧ following n = 0 ∨ 127 < n ∧ n ≤ 2047 ∧ following n = 1 ∨
      2047 < n ∧ n ≤ 65535 ∧ following n = 2 ∨ 65535 < n ∧ following n = 3 := by
  unfold following
  split <;> [skip; split <;> [skip; split]] <;> omega

theorem toNat_lt (c : Char) : c.toNat < 0x110000 := by
  rcases c.valid with h | h
  · exact Nat.lt_trans h (by decide)
  · exact h.2

variable {m n : Nat}

theorem lead_lt_256 (hn : n < 0x110000) : lead n < 256 := by
  unfold lead
  rcases following_cases n with ⟨h, hk⟩ | ⟨-, h, hk⟩ | ⟨-, h, hk⟩ | ⟨-, hk⟩
  all_goals
    simp only [hk, mark, Nat.reducePow]
    omega

/-- The greater code point has a greater leading byte, or else it differs in a sextet. -/
theorem lead_lt_or (h : m < n) : lead m < lead n ∨
    following m = following n ∧ m / 64 ^ following n = n / 64 ^ following n := by
  unfold lead
  rcases following_cases m with ⟨hm, hj⟩ | ⟨hm, hm', hj⟩ | ⟨hm, hm', hj⟩ | ⟨hm, hj⟩
  all_goals
    rcases following_cases n with ⟨hn, hk⟩ | ⟨hn, hn', hk⟩ | ⟨hn, hn', hk⟩ | ⟨hn, hk⟩
    all_goals
      simp only [hj, hk, mark, Nat.reducePow, true_and]
      omega

theorem utf8EncodeChar_eq (c : Char) : String.utf8EncodeChar c =
    UInt8.ofNat (lead c.toNat) :: sextets (following c.toNat) c.toNat := by
  have hc := toNat_lt c
  have hn : c.val.toNat = c.toNat := rfl
  unfold String.utf8EncodeChar lead
  simp only [hn]
  generalize c.toNat = n at hc
  rcases following_cases n with ⟨h, hk⟩ | ⟨h, h', hk⟩ | ⟨h, h', hk⟩ | ⟨h, hk⟩
  · rw [if_pos h, hk]
    simp [sextets, mark]
  · have hlead : n / 64 % 32 = n / 64 := by omega
    rw [if_neg (by omega), if_pos h', hk, hlead]
    simp [sextets, mark]
  · have hlead : n / 4096 % 16 = n / 4096 := by omega
    rw [if_neg (by omega), if_neg (by omega), if_pos h', hk, hlead]
    simp [sextets, mark]
  · have hlead : n / 262144 % 8 = n / 262144 := by omega
    rw [if_neg (by omega), if_neg (by omega), if_neg (by omega), hk, hlead]
    simp [sextets, mark]

/-- Of two code points that are the same but for their sextets the greater has the greater ones,
whatever bytes come after. -/
theorem sextets_lt (xs ys : List UInt8) {k : Nat} (h : m < n) (hk : m / 64 ^ k = n / 64 ^ k) :
    sextets k m ++ xs < sextets k n ++ ys := by
  induction k with
  | zero => simp at hk; omega
  | succ k ih =>
    have hle : m / 64 ^ k ≤ n / 64 ^ k := Nat.div_le_div_right (Nat.le_of_lt h)
    rw [Nat.pow_succ, ← Nat.div_div_eq_div_mul, ← Nat.div_div_eq_div_mul] at hk
    rw [sextets, sextets, List.cons_append, List.cons_append, List.cons_lt_cons_iff]
    rcases Nat.lt_or_eq_of_le hle with hlt | heq
    · -- the first sextet makes the difference, for what stands before it is the same
      left
      rw [UInt8.lt_iff_toNat_lt, UInt8.toNat_ofNat', UInt8.toNat_ofNat']
      omega
    · exact .inr ⟨by rw [heq], ih heq⟩

theorem utf8EncodeChar_lt {c d : Char} (h : c < d) (xs ys : List UInt8) :
    String.utf8EncodeChar c ++ xs < String.utf8EncodeChar d ++ ys := by
  have hlt : c.toNat < d.toNat := UInt32.lt_iff_toNat_lt.1 h
  have hc := lead_lt_256 (toNat_lt c)
  have hd := lead_lt_256 (toNat_lt d)
  rw [utf8EncodeChar_eq, utf8EncodeChar_eq, List.cons_append, List.cons_append,
    List.cons_lt_cons_iff]
  rcases lead_lt_or hlt with hlead | ⟨hfollowing, hdiv⟩
  · left
    rw [UInt8.lt_iff_toNat_lt, UInt8.toNat_ofNat', UInt8.toNat_ofNat']
    omega
  · rw [lead, lead, hfollowing, hdiv]
    exact .inr ⟨rfl, sextets_lt xs ys hlt hdiv⟩

/-! ## Texts -/

theorem bytes_eq (s : String) : bytes s = s.toList.flatMap String.utf8EncodeChar := by
  rw [bytes, String.toUTF8, ← String.utf8Encode_toList, List.utf8Encode,
    List.toList_data_toByteArray]

theorem flatMap_lt {cs ds : List Char} (h : cs < ds) :
    cs.flatMap String.utf8EncodeChar < ds.flatMap String.utf8EncodeChar := by
  induction h with
  | nil =>
    rw [List.flatMap_nil, List.flatMap_cons, utf8EncodeChar_eq, List.cons_append]
    exact List.nil_lt_cons _ _
  | rel h => exact utf8EncodeChar_lt h _ _
  | cons _ ih => exact List.Lex.append_left _ ih _

theorem bytes_lt_of_lt {a b : String} (h : a < b) : bytes a < bytes b := by
  rw [bytes_eq, bytes_eq]
  exact flatMap_lt (String.lt_iff_toList_lt.1 h)

theorem bytes_lt_iff {a b : String} : bytes a < bytes b ↔ a < b := by
  constructor
  · intro h
    rcases lt_trichotomy a b with hlt | rfl | hgt
    · exact hlt
    · exact absurd h (List.lt_irrefl _)
    · exact absurd h (List.lt_asymm (bytes_lt_of_lt hgt))
  · exact bytes_lt_of_lt

end TypedSql.Text
