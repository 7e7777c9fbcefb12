/-
Hexadecimal digits.

Digits are read in either case and written in lower case.
-/

namespace HttpGet

/-- A hexadecimal digit, in lower case. -/
def hexDigit (n : Nat) : Char := Nat.digitChar n

/-- The digits of `n` in base sixteen, in lower case. -/
def hexDigits (n : Nat) : List Char := Nat.toDigits 16 n

/-- The value of a hexadecimal digit, in either case. -/
def hexValue? (c : Char) : Option Nat :=
  if '0' ≤ c ∧ c ≤ '9' then some (c.toNat - '0'.toNat)
  else if 'a' ≤ c ∧ c ≤ 'f' then some (c.toNat - 'a'.toNat + 10)
  else if 'A' ≤ c ∧ c ≤ 'F' then some (c.toNat - 'A'.toNat + 10)
  else none

/-- The number that hexadecimal digits spell. -/
def hexNumber? (digits : List Char) : Option Nat :=
  digits.foldl (fun acc c => acc.bind fun n => (hexValue? c).map (n * 16 + ·)) (some 0)

/-- Every digit that is written is read back. -/
theorem hexValue?_hexDigit {n : Nat} (h : n < 16) : hexValue? (hexDigit n) = some n := by
  have all : ∀ n : Fin 16, hexValue? (hexDigit n) = some n.val := by decide
  exact all ⟨n, h⟩

/-- No digit comes after the last small letter that is one. -/
theorem le_of_hexValue {c : Char} {n : Nat} (h : hexValue? c = some n) : c ≤ 'f' := by
  unfold hexValue? at h
  split at h
  · rename_i hc
    exact Char.le_trans hc.2 (by decide)
  · split at h
    · rename_i hc
      exact hc.2
    · split at h
      · rename_i hc
        exact Char.le_trans hc.2 (by decide)
      · simp at h

/-- A number is spelled by digits only. -/
theorem hexValue_of_hexNumber {digits : List Char} {n : Nat} (h : hexNumber? digits = some n) :
    ∀ c ∈ digits, ∃ m, hexValue? c = some m := by
  have hfold : ∀ {digits : List Char} {start : Option Nat} {n : Nat},
      digits.foldl (fun acc c => acc.bind fun n => (hexValue? c).map (n * 16 + ·)) start = some n →
        (∃ m, start = some m) ∧ ∀ c ∈ digits, ∃ m, hexValue? c = some m := by
    intro digits
    induction digits with
    | nil => exact fun h => ⟨⟨_, h⟩, by simp⟩
    | cons c digits ih =>
        intro start n h
        obtain ⟨⟨m, hm⟩, hdigits⟩ := ih h
        obtain ⟨k, hk, hc⟩ := Option.bind_eq_some_iff.mp hm
        obtain ⟨value, hvalue, -⟩ := Option.map_eq_some_iff.mp hc
        exact ⟨⟨k, hk⟩, List.forall_mem_cons.mpr ⟨⟨value, hvalue⟩, hdigits⟩⟩
  exact (hfold h).2

end HttpGet
