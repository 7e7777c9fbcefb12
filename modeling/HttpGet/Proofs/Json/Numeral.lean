/-
What a number literal stands for.

`Numeral.value` computes a number digit by digit, and gives the digits back that it did not
look at.  Here it is shown to compute what `Numeral.Denotes` says: its loop over the digits
keeps the longest first part that fits the significand, so what it drops is what `Kept`
leaves out, and the two ways in which an exponent is used are those of `Scaled`.
-/
import HttpGet.Proofs.Json.Grammar

namespace HttpGet.Json

/-! ### Decimal digits -/

theorem decimal_append_singleton (digits : List Char) (c : Char) :
    decimal (digits ++ [c]) = decimal digits * 10 + digitValue c := by
  simp [decimal]

/-- More digits spell no smaller number. -/
theorem decimal_le_append (a b : List Char) : decimal a ≤ decimal (a ++ b) := by
  induction b generalizing a with
  | nil => simp
  | cons c b ih =>
      have hc := ih (a ++ [c])
      rw [decimal_append_singleton, List.append_assoc] at hc
      have : decimal a * 10 + digitValue c ≤ decimal (a ++ c :: b) := hc
      omega

/-! ### The digits of the significand -/

namespace Kept

variable {start digits kept : List Char}

/-- Only one first part is the longest. -/
theorem unique {kept' : List Char} (h : Kept start digits kept) (h' : Kept start digits kept') :
    kept = kept' := by
  have hle := h.longest kept' h'.isFirstPart h'.fits
  have hge := h'.longest kept h.isFirstPart h.fits
  exact (List.prefix_of_prefix_length_le h.isFirstPart h'.isFirstPart hge).eq_of_length
    (Nat.le_antisymm hge hle)

/-- Of no digits none are kept. -/
theorem nil (h : decimal start < 0x10000000000000000) : Kept start [] [] := by
  refine ⟨List.prefix_refl [], by simpa using h, ?_⟩
  intro more hmore _
  exact hmore.length_le

/-- A digit that fits is kept, and then those that fit after it. -/
theorem cons {c : Char} (h : Kept (start ++ [c]) digits kept) : Kept start (c :: digits) (c :: kept) := by
  refine ⟨List.cons_prefix_cons.mpr ⟨rfl, h.isFirstPart⟩, by simpa using h.fits, ?_⟩
  intro more hmore hfits
  cases more with
  | nil => simp
  | cons d more =>
      obtain ⟨rfl, hrest⟩ := List.cons_prefix_cons.mp hmore
      have := h.longest more hrest (by simpa using hfits)
      simpa using this

/-- From a digit that does not fit on, nothing is kept. -/
theorem stop {c : Char} (h : decimal start < 0x10000000000000000)
    (hc : ¬ decimal (start ++ [c]) < 0x10000000000000000) : Kept start (c :: digits) [] := by
  refine ⟨List.nil_prefix, by simpa using h, ?_⟩
  intro more hmore hfits
  cases more with
  | nil => simp
  | cons d more =>
      obtain ⟨rfl, -⟩ := List.cons_prefix_cons.mp hmore
      have hle := decimal_le_append (start ++ [d]) more
      rw [List.append_assoc] at hle
      exact absurd (Nat.lt_of_le_of_lt hle hfits) hc

/-- All digits are kept exactly if all of them fit. -/
theorem eq_all_iff (h : Kept start digits kept) :
    kept = digits ↔ decimal (start ++ digits) < 0x10000000000000000 := by
  constructor
  · rintro rfl
    exact h.fits
  · intro hall
    exact h.isFirstPart.eq_of_length
      (Nat.le_antisymm h.isFirstPart.length_le (h.longest digits (List.prefix_refl _) hall))

end Kept

/-- The loop over the digits keeps what can be kept, and gives back the rest. -/
theorem collect_decimal (start digits : List Char) (h : decimal start < 0x10000000000000000) :
    ∃ kept, Kept start digits kept ∧
      collect (decimal start) digits = (decimal (start ++ kept), digits.drop kept.length) := by
  induction digits generalizing start with
  | nil => exact ⟨[], Kept.nil h, by simp [collect]⟩
  | cons c digits ih =>
      rw [collect, ← decimal_append_singleton]
      by_cases hc : decimal (start ++ [c]) < 0x10000000000000000
      · obtain ⟨kept, hkept, heq⟩ := ih (start ++ [c]) hc
        refine ⟨c :: kept, hkept.cons, ?_⟩
        rw [if_pos hc, heq]
        simp
      · exact ⟨[], Kept.stop h hc, by rw [if_neg hc]; simp⟩

/-! ### The exponent -/

theorem exponentValue_of_lt (start digits : List Char)
    (h : decimal (start ++ digits) < 0x80000000) :
    exponentValue (decimal start) digits = .ok (decimal (start ++ digits)) := by
  induction digits generalizing start with
  | nil => simp [exponentValue]
  | cons c digits ih =>
      have hle := decimal_le_append (start ++ [c]) digits
      rw [List.append_assoc, List.singleton_append] at hle
      rw [exponentValue, ← decimal_append_singleton, if_pos (Nat.lt_of_le_of_lt hle h), ih]
      · simp
      · simpa using h

theorem exponentValue_of_le (start digits : List Char)
    (hstart : decimal start < 0x80000000) (h : 0x80000000 ≤ decimal (start ++ digits)) :
    ∃ unread, exponentValue (decimal start) digits = .error unread := by
  induction digits generalizing start with
  | nil => exact absurd h (by simpa using hstart)
  | cons c digits ih =>
      rw [exponentValue, ← decimal_append_singleton]
      by_cases hc : decimal (start ++ [c]) < 0x80000000
      · rw [if_pos hc]
        exact ih (start ++ [c]) hc (by simpa using h)
      · exact ⟨digits, by rw [if_neg hc]⟩

namespace Numeral

/-! ### Integers -/

theorem ofInt?_eq_some_iff {n : Int} {i : ExactInt} : ExactInt.ofInt? n = some i ↔ i.val = n := by
  constructor
  · intro h
    unfold ExactInt.ofInt? at h
    split at h
    · rw [← Option.some.inj h]
    · simp at h
  · rintro rfl
    exact ExactInt.ofInt?_val i

theorem integer?_eq_some_iff {negative : Bool} {n : Nat} {i : ExactInt} :
    integer? negative n = some i ↔
      i.val = (if negative then -(n : Int) else n) ∧ (negative = true → n ≠ 0) := by
  unfold integer?
  cases negative with
  | false => simp [ofInt?_eq_some_iff]
  | true =>
      by_cases hn : n = 0
      · simp [hn]
      · simp [hn, ofInt?_eq_some_iff]

/-- The digits of an integer are all kept. -/
theorem IsInteger.kept {n : Numeral} {whole : List Char} (h : n.IsInteger)
    (hw : Kept [] n.whole whole) : whole = n.whole := by
  rw [hw.eq_all_iff, List.nil_append]
  have hlower := h.lower
  have hupper := h.upper
  rw [signed] at hlower hupper
  by_cases hneg : n.negative = true
  · rw [if_pos hneg] at hlower
    omega
  · rw [if_neg hneg] at hupper
    omega

/-- What `value` takes for an integer is one. -/
theorem integer_iff {n : Numeral} {whole : List Char} (hw : Kept [] n.whole whole)
    {i : ExactInt} :
    (if (n.whole.drop whole.length).isEmpty && n.fraction.isNone && n.exponent.isNone then
      integer? n.negative (decimal whole) else none) = some i ↔ n.IsInteger ∧ i.val = n.signed := by
  constructor
  · intro h
    split at h
    · rename_i hall
      simp only [Bool.and_eq_true, List.isEmpty_iff, List.drop_eq_nil_iff,
        Option.isNone_iff_eq_none] at hall
      obtain ⟨⟨hle, hfraction⟩, hexponent⟩ := hall
      obtain rfl := hw.isFirstPart.eq_of_length
        (Nat.le_antisymm hw.isFirstPart.length_le hle)
      obtain ⟨hval, hzero⟩ := integer?_eq_some_iff.mp h
      have hsigned : i.val = n.signed := hval
      refine ⟨⟨hfraction, hexponent, ?_, ?_, ?_⟩, hsigned⟩
      · rw [← hsigned]
        exact i.lower
      · rw [← hsigned]
        exact i.upper
      · intro hneg
        have := hzero hneg
        rw [signed, if_pos hneg]
        omega
    · simp at h
  · rintro ⟨h, hval⟩
    obtain rfl := h.kept hw
    have hzero := h.notMinusZero
    rw [signed] at hval hzero
    rw [if_pos (by simp [h.noFraction, h.noExponent]), integer?_eq_some_iff]
    refine ⟨hval, fun hneg => ?_⟩
    have := hzero hneg
    rw [if_pos hneg] at this
    omega

/-! ### All numbers -/

theorem value_of_integer {n : Numeral} {i : ExactInt} (h : n.IsInteger) (hi : i.val = n.signed) :
    n.value = .ok (.integer i) := by
  obtain ⟨whole, hw, hwhole⟩ := collect_decimal [] n.whole (by decide)
  have hcollect : collect 0 n.whole = (decimal whole, n.whole.drop whole.length) := hwhole
  have hint := (integer_iff hw).mpr ⟨h, hi⟩
  simp only [value, hcollect, hint]

theorem value_of_not_integer {n : Numeral} (h : ¬ n.IsInteger) {whole fraction : List Char}
    (hw : Kept [] n.whole whole) (hf : Kept whole (n.fraction.getD []) fraction) :
    n.value = n.finish (decimal (whole ++ fraction))
      ((n.whole.length : Int) - whole.length - fraction.length) := by
  obtain ⟨whole', hw', hwhole⟩ := collect_decimal [] n.whole (by decide)
  obtain rfl := hw'.unique hw
  obtain ⟨fraction', hf', hfraction⟩ := collect_decimal _ (n.fraction.getD []) hw.fits
  obtain rfl := hf'.unique hf
  have hcollect : collect 0 n.whole = (decimal whole', n.whole.drop whole'.length) := hwhole
  have hfrac : collect (decimal whole') (n.fraction.getD []) =
      (decimal (whole' ++ fraction'), (n.fraction.getD []).drop fraction'.length) := hfraction
  have hint : (if (n.whole.drop whole'.length).isEmpty && n.fraction.isNone && n.exponent.isNone
      then integer? n.negative (decimal whole') else none) = none := by
    rw [Option.eq_none_iff_forall_ne_some]
    intro i hi
    exact h ((integer_iff hw).mp hi).1
  have hplace : ((n.whole.drop whole'.length).length : Int) - ((n.fraction.getD []).length -
      ((n.fraction.getD []).drop fraction'.length).length : Nat) =
      (n.whole.length : Int) - whole'.length - fraction'.length := by
    have hwl := hw.isFirstPart.length_le
    have hfl := hf.isFirstPart.length_le
    simp only [List.length_drop]
    omega
  simp only [value, hcollect, hint, hfrac, hplace]

/-- The last step gives the numbers of the scaled magnitudes, and no others. -/
theorem finish_eq_ok_iff {n : Numeral} {significand : Nat} {place : Int} {x : Number} :
    n.finish significand place = .ok x ↔
      ∃ m, Scaled significand place n.exponent m ∧ x = .real ⟨n.negative, m⟩ := by
  unfold finish
  cases n.exponent with
  | none =>
      constructor
      · intro h
        cases hm : scaled significand place with
        | none => simp [hm] at h
        | some m =>
            simp only [hm, Except.ok.injEq] at h
            exact ⟨m, .plain hm, h.symm⟩
      · rintro ⟨m, hm, rfl⟩
        cases hm with
        | plain hm => simp [hm]
  | some e =>
      obtain ⟨negative, digits⟩ := e
      by_cases hsmall : decimal digits < 0x80000000
      · have hvalue : exponentValue 0 digits = .ok (decimal digits) :=
          exponentValue_of_lt [] digits hsmall
        simp only [hvalue]
        constructor
        · intro h
          cases hm : scaled significand
              (if negative then place - decimal digits else place + decimal digits) with
          | none => simp [hm] at h
          | some m =>
              simp only [hm, Except.ok.injEq] at h
              cases negative with
              | false => exact ⟨m, .raised hsmall hm, h.symm⟩
              | true => exact ⟨m, .lowered hsmall hm, h.symm⟩
        · rintro ⟨m, hm, rfl⟩
          cases hm with
          | raised _ hm => simp [hm]
          | lowered _ hm => simp [hm]
          | vanished hlarge => exact absurd hsmall (Nat.not_lt.mpr hlarge)
      · have hlarge := Nat.le_of_not_lt hsmall
        obtain ⟨unread, hunread⟩ :=
          exponentValue_of_le [] digits (by decide) hlarge
        have hvalue : exponentValue 0 digits = .error unread := hunread
        simp only [hvalue, Bool.or_eq_true, decide_eq_true_eq]
        constructor
        · intro h
          by_cases hzero : significand = 0 ∨ negative = true
          · rw [if_pos hzero, Except.ok.injEq] at h
            exact ⟨.zero, .vanished hlarge hzero, h.symm⟩
          · rw [if_neg hzero] at h
            exact absurd h (by simp)
        · rintro ⟨m, hm, rfl⟩
          cases hm with
          | raised hlt => exact absurd hlt hsmall
          | lowered hlt => exact absurd hlt hsmall
          | vanished _ hzero => rw [if_pos hzero]

/-- What `value` computes is what the literal denotes. -/
theorem value_eq_ok_iff (n : Numeral) (x : Number) : n.value = .ok x ↔ n.Denotes x := by
  by_cases h : n.IsInteger
  · constructor
    · intro hx
      rw [value_of_integer (i := ⟨n.signed, h.lower, h.upper⟩) h rfl, Except.ok.injEq] at hx
      exact hx ▸ .integer h rfl
    · intro hx
      cases hx with
      | integer _ hi => exact value_of_integer h hi
      | real hn => exact absurd h hn
  · obtain ⟨whole, hw, -⟩ := collect_decimal [] n.whole (by decide)
    obtain ⟨fraction, hf, -⟩ := collect_decimal _ (n.fraction.getD []) hw.fits
    rw [value_of_not_integer h hw hf, finish_eq_ok_iff]
    constructor
    · rintro ⟨m, hm, rfl⟩
      exact .real h hw hf hm
    · intro hx
      cases hx with
      | integer hi => exact absurd hi h
      | real _ hw' hf' hm =>
          obtain rfl := hw.unique hw'
          obtain rfl := hf.unique hf'
          exact ⟨_, hm, rfl⟩

/-- A literal denotes one number at most. -/
theorem Denotes.unique {n : Numeral} {x y : Number} (hx : n.Denotes x) (hy : n.Denotes y) :
    x = y := by
  rw [← value_eq_ok_iff] at hx hy
  rw [hx] at hy
  exact Except.ok.inj hy

end Numeral
end HttpGet.Json
