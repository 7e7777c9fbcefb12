/-
UTF-8.

Bytes are cut into segments: the encoding of one character, or a maximal ill-formed
part, that is the longest beginning of an encoding that the next byte does not
continue.  The strict decoding asks that every segment is a character; the lossy
decoding puts U+FFFD in the place of each ill-formed part and so never fails.
-/

namespace HttpGet.Utf8

/-- What a lead byte announces: its payload bits, the range of the second byte, and
how many bytes follow. -/
structure Lead where
  payload : Nat
  low : UInt8
  high : UInt8
  following : Nat

/-- The lead bytes.  The ranges of the second byte exclude overlong forms, surrogates
and code points above U+10FFFF. -/
def lead? (b : UInt8) : Option Lead :=
  if b < 0x80 then some ⟨b.toNat, 0x80, 0xBF, 0⟩
  else if b < 0xC2 then none
  else if b < 0xE0 then some ⟨b.toNat % 0x20, 0x80, 0xBF, 1⟩
  else if b = 0xE0 then some ⟨0, 0xA0, 0xBF, 2⟩
  else if b = 0xED then some ⟨0xD, 0x80, 0x9F, 2⟩
  else if b < 0xF0 then some ⟨b.toNat % 0x10, 0x80, 0xBF, 2⟩
  else if b = 0xF0 then some ⟨0, 0x90, 0xBF, 3⟩
  else if b < 0xF4 then some ⟨b.toNat % 8, 0x80, 0xBF, 3⟩
  else if b = 0xF4 then some ⟨4, 0x80, 0x8F, 3⟩
  else none

/-- Read `n` more bytes of an encoding, the first of them within `low` and `high`;
without a code point if a byte does not fit or the bytes end. -/
def continuation : (n code : Nat) → (low high : UInt8) → List UInt8 → Option Nat × List UInt8
  | 0, code, _, _, rest => (some code, rest)
  | _ + 1, _, _, _, [] => (none, [])
  | n + 1, code, low, high, b :: rest =>
    if low ≤ b && b ≤ high then continuation n (code * 0x40 + b.toNat % 0x40) 0x80 0xBF rest
    else (none, b :: rest)

theorem length_continuation_le (n code : Nat) (low high : UInt8) (bytes : List UInt8) :
    (continuation n code low high bytes).2.length ≤ bytes.length := by
  induction bytes generalizing n code low high with
  | nil => cases n <;> simp [continuation]
  | cons b rest ih =>
    cases n with
    | zero => simp [continuation]
    | succ n =>
      rw [continuation]
      split
      · exact Nat.le_succ_of_le (ih ..)
      · simp

/-- The first segment of `b :: rest`: its code point, unless it is ill formed, and the
bytes after it. -/
def segment (b : UInt8) (rest : List UInt8) : Option Nat × List UInt8 :=
  match lead? b with
  | none => (none, rest)
  | some l => continuation l.following l.payload l.low l.high rest

theorem length_segment_le (b : UInt8) (rest : List UInt8) :
    (segment b rest).2.length ≤ rest.length := by
  unfold segment
  split
  · exact Nat.le_refl _
  · exact length_continuation_le ..

/-- The segments of a byte sequence: a character, or nothing for a maximal ill-formed
part. -/
def segments : List UInt8 → List (Option Char)
  | [] => []
  | b :: rest => (segment b rest).1.map Char.ofNat :: segments (segment b rest).2
termination_by bytes => bytes.length
decreasing_by exact Nat.lt_succ_of_le (length_segment_le b rest)

/-- The character in the place of an ill-formed part. -/
def replacement : Char := '\uFFFD'

/-- The text of any bytes, with U+FFFD for each maximal ill-formed part. -/
def decodeLossy (bytes : List UInt8) : String :=
  String.ofList ((segments bytes).map (·.getD replacement))

/-- The text of well-formed bytes. -/
def decode? (bytes : List UInt8) : Option String :=
  let parts := segments bytes
  if parts.all Option.isSome then some (String.ofList (parts.filterMap id)) else none

/-- The bytes of a text. -/
def encode (text : String) : List UInt8 := text.toList.flatMap String.utf8EncodeChar

end HttpGet.Utf8
