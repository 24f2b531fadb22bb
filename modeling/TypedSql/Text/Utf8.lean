/-!
# Lossy decoding of UTF-8

Bytes that an engine hands over as text need not be UTF-8.  `decodeLossy` reads
them all the same: a well-formed sequence gives its character, and each maximal
ill-formed part gives one U+FFFD.  An ill-formed part is a lead byte together
with the continuation bytes that could still have completed it, or a single
byte that starts nothing.
-/

namespace TypedSql.Text

/-- What a lead byte announces: the bits it carries, how many bytes follow it,
and the range that the first of these has to lie in. -/
structure Utf8Lead where
  payload : Nat
  following : Nat
  low : UInt8
  high : UInt8

/-- The ranges that rule out overlong forms, surrogates and code points past
U+10FFFF are narrower for the byte after `E0`, `ED`, `F0` and `F4`. -/
def Utf8Lead.of? (b : UInt8) : Option Utf8Lead :=
  if b < 0x80 then some ⟨b.toNat, 0, 0, 0⟩
  else if b < 0xC2 then none
  else if b < 0xE0 then some ⟨b.toNat - 0xC0, 1, 0x80, 0xBF⟩
  else if b = 0xE0 then some ⟨0, 2, 0xA0, 0xBF⟩
  else if b = 0xED then some ⟨0xD, 2, 0x80, 0x9F⟩
  else if b < 0xF0 then some ⟨b.toNat - 0xE0, 2, 0x80, 0xBF⟩
  else if b = 0xF0 then some ⟨0, 3, 0x90, 0xBF⟩
  else if b < 0xF4 then some ⟨b.toNat - 0xF0, 3, 0x80, 0xBF⟩
  else if b = 0xF4 then some ⟨4, 3, 0x80, 0x8F⟩
  else none

/-- Reads `n` continuation bytes onto `code`, the first of them within
`low … high`; stops before the first byte that does not fit. -/
def continuation : Nat → UInt8 → UInt8 → Nat → List UInt8 → Option Nat × List UInt8
  | 0, _, _, code, bytes => (some code, bytes)
  | _ + 1, _, _, _, [] => (none, [])
  | n + 1, low, high, code, b :: bytes =>
    if low ≤ b ∧ b ≤ high then continuation n 0x80 0xBF (code * 64 + b.toNat % 64) bytes
    else (none, b :: bytes)

theorem length_continuation_le (n : Nat) (low high : UInt8) (code : Nat) (bytes : List UInt8) :
    (continuation n low high code bytes).2.length ≤ bytes.length := by
  fun_induction continuation n low high code bytes with
  | case1 => simp
  | case2 => simp
  | case3 n low high code b bytes h ih => simp only [List.length_cons]; omega
  | case4 => simp

def replacement : Char := '\uFFFD'

/-- The character that starts the bytes, or U+FFFD for an ill-formed part, and
the bytes after it. -/
def decodeStep (b : UInt8) (bytes : List UInt8) : Char × List UInt8 :=
  match Utf8Lead.of? b with
  | none => (replacement, bytes)
  | some lead =>
    match continuation lead.following lead.low lead.high lead.payload bytes with
    | (some code, rest) => (Char.ofNat code, rest)
    | (none, rest) => (replacement, rest)

theorem length_decodeStep_le (b : UInt8) (bytes : List UInt8) :
    (decodeStep b bytes).2.length ≤ bytes.length := by
  unfold decodeStep
  split
  · simp
  · next lead _ =>
    have := length_continuation_le lead.following lead.low lead.high lead.payload bytes
    split <;> simp_all

def decodeLossyChars : List UInt8 → List Char
  | [] => []
  | b :: bytes => (decodeStep b bytes).1 :: decodeLossyChars (decodeStep b bytes).2
termination_by bytes => bytes.length
decreasing_by
  have := length_decodeStep_le b bytes
  simp only [List.length_cons]
  omega

/-- Text from bytes, with U+FFFD in the place of every ill-formed part. -/
def decodeLossy (bytes : List UInt8) : String :=
  String.ofList (decodeLossyChars bytes)

end TypedSql.Text
