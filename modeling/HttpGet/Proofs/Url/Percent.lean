/-
Percent encoding, done once.

An encoded text has only ASCII characters that may stand in it, and the signs of the encoding
are among them; so encoding changes it no more.  A text without a percent sign stands for its own
bytes.
-/
import HttpGet.Url.Percent

namespace HttpGet

namespace Percent

variable {set : Char → Bool}

/-- The signs that percent encoding writes. -/
def signs : List Char := "%0123456789ABCDEF".toList

/-- Whether a text is encoded: all its characters are ASCII and may stand in it. -/
def IsEncoded (set : Char → Bool) (s : List Char) : Prop :=
  ∀ c ∈ s, c.toNat < 0x80 ∧ set c = false

theorem mem_signs_of_mem_encodeByte {b : UInt8} : ∀ c ∈ encodeByte b, c ∈ signs := by
  have hdigit : ∀ n : Fin 16, hexDigit n.val ∈ signs := by decide
  have hlt : b.toNat < 256 := b.toNat_lt
  have hhigh : b.toNat / 16 < 16 := by omega
  have hlow : b.toNat % 16 < 16 := Nat.mod_lt _ (by decide)
  simp only [encodeByte, List.forall_mem_cons]
  exact ⟨by decide, hdigit ⟨_, hhigh⟩, hdigit ⟨_, hlow⟩, by simp⟩

/-- What encoding leaves of a text, and what it adds to it. -/
theorem mem_encode {s : List Char} {c : Char} (h : c ∈ encode set s) :
    (c ∈ s ∧ c.toNat < 0x80 ∧ set c = false) ∨ c ∈ signs := by
  obtain ⟨d, hd, hc⟩ := List.mem_flatMap.mp h
  rw [encodeChar] at hc
  split at hc
  · rename_i hplain
    obtain rfl : c = d := by simpa using hc
    exact Or.inl ⟨hd, by simpa using hplain⟩
  · obtain ⟨b, -, hb⟩ := List.mem_flatMap.mp hc
    exact Or.inr (mem_signs_of_mem_encodeByte c hb)

theorem isEncoded_encode (hsigns : IsEncoded set signs) (s : List Char) :
    IsEncoded set (encode set s) := by
  intro c hc
  obtain ⟨-, hplain⟩ | hsign := mem_encode hc
  · exact hplain
  · exact hsigns c hsign

theorem encode_of_isEncoded {s : List Char} (h : IsEncoded set s) : encode set s = s := by
  induction s with
  | nil => rfl
  | cons c rest ih =>
      obtain ⟨⟨hascii, hset⟩, hrest⟩ := List.forall_mem_cons.mp h
      have hc : encodeChar set c = [c] := by simp [encodeChar, hascii, hset]
      rw [encode, List.flatMap_cons, hc]
      exact congrArg (c :: ·) (ih hrest)

/-- A text without a percent sign stands for its own bytes. -/
theorem decode_of_not_mem {s : List Char} (h : '%' ∉ s) :
    decode s = s.flatMap String.utf8EncodeChar := by
  induction s with
  | nil => simp [decode]
  | cons c rest ih =>
      obtain ⟨hc, hrest⟩ := not_or.mp (mt List.mem_cons.mpr h)
      rw [decode, ih hrest, List.flatMap_cons]
      exact fun _ _ _ heq => absurd heq.symm hc

end Percent
end HttpGet
