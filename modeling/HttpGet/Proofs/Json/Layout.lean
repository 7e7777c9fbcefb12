/-
The text of a floating point number.

What is written for a floating point number is a literal: a whole part and a fraction, or one
digit before the point and an exponent.  Its digits are those of the shortest decimal, with zeros
that fill it up to the point, and read without the point they fit the significand of 64 bits.  So
the literal denotes what its digits are scaled to.
-/
import HttpGet.Json.Printer
import HttpGet.Proofs.Decimal.Shortest
import HttpGet.Proofs.Json.Printing
import HttpGet.Proofs.Json.Scaling

namespace HttpGet.Json

/-! ### Digits and zeros -/

theorem decimal_append (a b : List Char) : decimal (a ++ b) = decimal a * 10 ^ b.length + decimal b := by
  induction b generalizing a with
  | nil => simp [decimal]
  | cons c b ih =>
      have hcons : a ++ c :: b = (a ++ [c]) ++ b := by simp
      have hsingle : c :: b = [c] ++ b := rfl
      rw [hcons, ih, decimal_append_singleton, hsingle, ih [c]]
      simp [decimal]
      ring

theorem decimal_replicate_zero (count : Nat) : decimal (List.replicate count '0') = 0 := by
  induction count with
  | zero => rfl
  | succ count ih =>
      rw [List.replicate_succ', decimal_append_singleton, ih]
      rfl

/-! ### The digits of a literal -/

namespace Numeral

/-- The integer that the digits of a literal spell without the point. -/
def significand (n : Numeral) : Nat := decimal (n.whole ++ n.fraction.getD [])

/-- The exponent of a literal, with its sign. -/
def writtenExponent (n : Numeral) : Int :=
  match n.exponent with
  | none => 0
  | some (negative, digits) => if negative then -(decimal digits : Int) else decimal digits

/-- The power of ten that the digits without the point are scaled by. -/
def power (n : Numeral) : Int := n.writtenExponent - ((n.fraction.getD []).length : Int)

/-- The number that a literal spells, without its sign. -/
def spelled (n : Numeral) : ℚ := n.significand * 10 ^ n.power

/-- A literal whose digits all fit denotes what they are scaled to. -/
theorem denotes_real {n : Numeral} {m : Magnitude} (h : ¬ n.IsInteger)
    (hfits : n.significand < 0x10000000000000000)
    (hexponent : ∀ negative digits, n.exponent = some (negative, digits) →
      decimal digits < 0x80000000)
    (hm : scaled n.significand n.power = some m) : n.Denotes (.real ⟨n.negative, m⟩) := by
  have hwhole : Kept [] n.whole n.whole :=
    ⟨List.prefix_refl _, (decimal_le_append n.whole _).trans_lt hfits, fun _ hmore _ => hmore.length_le⟩
  have hfraction : Kept n.whole (n.fraction.getD []) (n.fraction.getD []) :=
    ⟨List.prefix_refl _, hfits, fun _ hmore _ => hmore.length_le⟩
  refine .real h hwhole hfraction ?_
  rw [← significand, sub_self]
  rw [power, writtenExponent] at hm
  cases hexp : n.exponent with
  | none =>
      rw [hexp] at hm
      exact .plain hm
  | some e =>
      obtain ⟨negative, digits⟩ := e
      have hsmall := hexponent negative digits hexp
      rw [hexp] at hm
      cases negative with
      | false =>
          refine .raised hsmall ?_
          rw [← hm]
          congr 1
          simp only [Bool.false_eq_true, if_false]
          omega
      | true =>
          refine .lowered hsmall ?_
          rw [← hm]
          congr 1
          simp only [if_true]
          omega

end Numeral

/-! ### Literals of a layout -/

namespace Digits

/-- The digits of a number. -/
def ofNat (n : Nat) : Digits :=
  ⟨Nat.toDigits 10 n, Nat.toDigits_ne_nil,
    fun _ hc => Nat.isDigit_of_mem_toDigits (by decide) (by decide) hc⟩

/-- Digits with zeros before them. -/
def afterZeros (d : Digits) (count : Nat) : Digits where
  chars := List.replicate count '0' ++ d.chars
  nonempty := List.append_ne_nil_of_right_ne_nil _ d.nonempty
  digit c hc := by
    rcases List.mem_append.mp hc with hc | hc
    · rw [List.eq_of_mem_replicate hc]
      rfl
    · exact d.digit c hc

/-- Digits with zeros behind them. -/
def beforeZeros (d : Digits) (count : Nat) : Digits where
  chars := d.chars ++ List.replicate count '0'
  nonempty := List.append_ne_nil_of_left_ne_nil d.nonempty _
  digit c hc := by
    rcases List.mem_append.mp hc with hc | hc
    · exact d.digit c hc
    · rw [List.eq_of_mem_replicate hc]
      rfl

/-- The first digits, at least one. -/
def first (d : Digits) (count : Nat) (h : 0 < count) : Digits where
  chars := d.chars.take count
  nonempty := by
    rw [ne_eq, List.take_eq_nil_iff]
    exact fun hnil => hnil.elim (Nat.ne_of_gt h) d.nonempty
  digit c hc := d.digit c (List.mem_of_mem_take hc)

/-- The digits after the first ones, at least one. -/
def rest (d : Digits) (count : Nat) (h : count < d.chars.length) : Digits where
  chars := d.chars.drop count
  nonempty := by
    rw [ne_eq, List.drop_eq_nil_iff]
    exact Nat.not_le.mpr h
  digit c hc := d.digit c (List.mem_of_mem_drop hc)

@[simp] theorem chars_ofNat (n : Nat) : (ofNat n).chars = Nat.toDigits 10 n := rfl

theorem ofNat_noLeadingZero (n : Nat) (rest : List Char) (h : (ofNat n).chars = '0' :: rest) :
    rest = [] := by
  rw [chars_ofNat] at h
  exact toDigits_noLeadingZero h

@[simp] theorem chars_afterZeros (d : Digits) (count : Nat) :
    (d.afterZeros count).chars = List.replicate count '0' ++ d.chars := rfl

@[simp] theorem chars_beforeZeros (d : Digits) (count : Nat) :
    (d.beforeZeros count).chars = d.chars ++ List.replicate count '0' := rfl

@[simp] theorem chars_first (d : Digits) (count : Nat) (h : 0 < count) :
    (d.first count h).chars = d.chars.take count := rfl

@[simp] theorem chars_rest (d : Digits) (count : Nat) (h : count < d.chars.length) :
    (d.rest count h).chars = d.chars.drop count := rfl

end Digits

/-- The characters of the sign of a number. -/
def signChars (negative : Bool) : List Char := if negative then ['-'] else []

/-- The literal of a whole part and a fraction. -/
def fixedLiteral (negative : Bool) (whole fraction : Digits)
    (noLeadingZero : ∀ rest, whole.chars = '0' :: rest → rest = []) : NumberLiteral :=
  ⟨negative, whole, noLeadingZero, some fraction, none⟩

/-- An exponent with its sign, also where that is a plus. -/
def signedExponent (exponent : Int) : ExponentLiteral :=
  ⟨'e', Or.inl rfl, if exponent < 0 then .minus else .plus, .ofNat exponent.natAbs⟩

/-- The literal of one digit before the point, those behind it, and an exponent. -/
def scientificLiteral (negative : Bool) (digits : Digits) (exponent : Int) : NumberLiteral where
  negative := negative
  whole := digits.first 1 Nat.one_pos
  noLeadingZero rest h := by
    have hlength := congrArg List.length h
    rw [Digits.first, List.length_take, List.length_cons] at hlength
    exact List.eq_nil_of_length_eq_zero (by omega)
  fraction := if h : 1 < digits.chars.length then some (digits.rest 1 h) else none
  exponent := some (signedExponent exponent)

/-- A literal shows a decimal: it spells the same number, with the digits of the decimal or with
zeros up to the point and one behind it. -/
structure Shows (l : NumberLiteral) (d : Decimal) : Prop where
  spelled : l.numeral.spelled = d.value
  place : l.numeral.significand = d.digits ∧ l.numeral.power = d.scale ∨
    l.numeral.significand < 10 ^ 17 ∧ l.numeral.power = -1
  exponent : ∀ negative digits, l.numeral.exponent = some (negative, digits) →
    decimal digits < 0x80000000
  real : ¬ l.numeral.IsInteger

section Fixed

variable {negative : Bool} {whole fraction : Digits}
  {hzero : ∀ rest, whole.chars = '0' :: rest → rest = []} {d : Decimal}

theorem chars_fixedLiteral : (fixedLiteral negative whole fraction hzero).chars =
    signChars negative ++ (whole.chars ++ '.' :: fraction.chars) :=
  (List.append_nil _).trans (List.append_assoc ..)

theorem fixedLiteral_exponent (minus : Bool) (digits : List Char)
    (h : (fixedLiteral negative whole fraction hzero).numeral.exponent = some (minus, digits)) :
    decimal digits < 0x80000000 :=
  absurd h (by simp [fixedLiteral, NumberLiteral.numeral])

theorem not_isInteger_fixedLiteral :
    ¬ (fixedLiteral negative whole fraction hzero).numeral.IsInteger := fun h =>
  absurd h.noFraction (by simp [fixedLiteral, NumberLiteral.numeral])

theorem power_fixedLiteral :
    (fixedLiteral negative whole fraction hzero).numeral.power = -(fraction.chars.length : Int) :=
  Int.zero_sub _

/-- The digits of a decimal show it if the point is put where it belongs. -/
theorem shows_fixedLiteral (hdigits : decimal (whole.chars ++ fraction.chars) = d.digits)
    (hscale : -(fraction.chars.length : Int) = d.scale) :
    Shows (fixedLiteral negative whole fraction hzero) d := by
  have hsignificand : (fixedLiteral negative whole fraction hzero).numeral.significand = d.digits :=
    hdigits
  have hpower : (fixedLiteral negative whole fraction hzero).numeral.power = d.scale :=
    power_fixedLiteral.trans hscale
  exact {
    spelled := by rw [Numeral.spelled, Decimal.value, hsignificand, hpower]
    place := Or.inl ⟨hsignificand, hpower⟩
    exponent := fixedLiteral_exponent
    real := not_isInteger_fixedLiteral }

end Fixed

variable (negative : Bool) {d : Decimal}

/-- Where the point stands before the digits, zeros fill the space between. -/
theorem exists_shows_before (hpoint : d.point ≤ 0) :
    ∃ l : NumberLiteral, Shows l d ∧ l.negative = negative ∧
      l.chars = signChars negative ++ Layout.plain (Nat.toDigits 10 d.digits) d.point := by
  refine ⟨fixedLiteral negative (.ofNat 0) ((Digits.ofNat d.digits).afterZeros (-d.point).toNat)
    (Digits.ofNat_noLeadingZero 0), shows_fixedLiteral ?_ ?_, rfl, ?_⟩
  · simp only [Digits.chars_afterZeros, Digits.chars_ofNat, decimal_append, decimal_replicate_zero,
      decimal_toDigits, zero_mul, zero_add]
  · simp only [Digits.chars_afterZeros, Digits.chars_ofNat, List.length_append,
      List.length_replicate, Decimal.scale]
    omega
  · rw [chars_fixedLiteral, Layout.plain, if_pos hpoint]
    rfl

/-- Where the point stands among the digits, it splits them. -/
theorem exists_shows_among (hpoint : 0 < d.point)
    (hlength : d.point < (Nat.toDigits 10 d.digits).length) :
    ∃ l : NumberLiteral, Shows l d ∧ l.negative = negative ∧
      l.chars = signChars negative ++ Layout.plain (Nat.toDigits 10 d.digits) d.point := by
  obtain ⟨count, hcount⟩ := Int.eq_ofNat_of_zero_le hpoint.le
  have hpos : 0 < count := by omega
  have hlength' : count < (Digits.ofNat d.digits).chars.length := by
    rw [Digits.chars_ofNat]
    omega
  have hzero : ∀ rest, ((Digits.ofNat d.digits).first count hpos).chars = '0' :: rest → rest = [] := by
    intro rest h
    obtain ⟨c, cs, hdigits⟩ := List.exists_cons_of_ne_nil (Digits.ofNat d.digits).nonempty
    obtain ⟨before, rfl⟩ := Nat.exists_eq_add_one_of_ne_zero hpos.ne'
    rw [Digits.chars_first, hdigits, List.take_succ_cons, List.cons.injEq] at h
    rw [h.1] at hdigits
    rw [hdigits, Digits.ofNat_noLeadingZero _ _ hdigits, List.length_singleton] at hlength'
    omega
  refine ⟨fixedLiteral negative ((Digits.ofNat d.digits).first count hpos)
    ((Digits.ofNat d.digits).rest count hlength') hzero, shows_fixedLiteral ?_ ?_, rfl, ?_⟩
  · rw [Digits.chars_first, Digits.chars_rest, List.take_append_drop, Digits.chars_ofNat,
      decimal_toDigits]
  · rw [Digits.chars_rest, List.length_drop, Decimal.scale]
    rw [Digits.chars_ofNat] at *
    omega
  · rw [Digits.chars_ofNat] at hlength'
    rw [chars_fixedLiteral, Layout.plain, if_neg (by omega), hcount, Int.toNat_natCast]
    simp only [if_neg (Nat.not_le.mpr hlength'), Digits.chars_first, Digits.chars_rest,
      Digits.chars_ofNat]

/-- Where the point stands behind the digits, zeros fill the space between, and one stands behind
the point. -/
theorem exists_shows_behind (hpoint : 0 < d.point) (hsmall : d.point ≤ 16)
    (hlength : (Nat.toDigits 10 d.digits).length ≤ d.point) (hzero : d.digits = 0 → d.point = 1) :
    ∃ l : NumberLiteral, Shows l d ∧ l.negative = negative ∧
      l.chars = signChars negative ++ Layout.plain (Nat.toDigits 10 d.digits) d.point := by
  obtain ⟨count, hcount⟩ := Int.eq_ofNat_of_zero_le hpoint.le
  obtain ⟨zeros, hzeros⟩ := Nat.exists_eq_add_of_le
    (show (Nat.toDigits 10 d.digits).length ≤ count by omega)
  have hlead : ∀ rest, ((Digits.ofNat d.digits).beforeZeros zeros).chars = '0' :: rest → rest = [] := by
    intro rest h
    obtain ⟨c, cs, hdigits⟩ := List.exists_cons_of_ne_nil (Digits.ofNat d.digits).nonempty
    rw [Digits.chars_beforeZeros, hdigits, List.cons_append, List.cons.injEq] at h
    rw [h.1] at hdigits
    obtain rfl := Digits.ofNat_noLeadingZero _ _ hdigits
    rw [Digits.chars_ofNat] at hdigits
    have hspelled := decimal_toDigits d.digits
    rw [hdigits] at hspelled hzeros
    have hpoint' := hzero hspelled.symm
    obtain rfl : zeros = 0 := by
      rw [List.length_singleton] at hzeros
      omega
    exact h.2.symm
  have hsignificand : (fixedLiteral negative ((Digits.ofNat d.digits).beforeZeros zeros) (.ofNat 0)
      hlead).numeral.significand = d.digits * 10 ^ (zeros + 1) := by
    show decimal ((Nat.toDigits 10 d.digits ++ List.replicate zeros '0') ++ ['0']) = _
    rw [decimal_append_singleton, decimal_append, decimal_replicate_zero, decimal_toDigits,
      List.length_replicate, pow_succ, ← mul_assoc]
    rfl
  refine ⟨fixedLiteral negative ((Digits.ofNat d.digits).beforeZeros zeros) (.ofNat 0) hlead,
    ⟨?_, Or.inr ⟨?_, power_fixedLiteral⟩, fixedLiteral_exponent, not_isInteger_fixedLiteral⟩, rfl, ?_⟩
  · have hscale : d.point - (Nat.toDigits 10 d.digits).length = (zeros : Int) := by omega
    rw [Numeral.spelled, hsignificand, power_fixedLiteral, Decimal.value, Decimal.scale, hscale,
      zpow_natCast, Nat.cast_mul, Nat.cast_pow, Nat.cast_ofNat, pow_succ, mul_assoc, mul_assoc]
    show (d.digits : ℚ) * (10 ^ zeros * (10 * 10 ^ (-1 : Int))) = d.digits * 10 ^ zeros
    norm_num
  · have hdigits : d.digits < 10 ^ (Nat.toDigits 10 d.digits).length :=
      (Nat.length_toDigits_le_iff (by decide) Nat.length_toDigits_pos).mp le_rfl
    rw [hsignificand]
    calc d.digits * 10 ^ (zeros + 1)
        < 10 ^ (Nat.toDigits 10 d.digits).length * 10 ^ (zeros + 1) :=
          Nat.mul_lt_mul_of_pos_right hdigits (by positivity)
      _ = 10 ^ (count + 1) := by rw [← pow_add, hzeros, Nat.add_assoc]
      _ ≤ 10 ^ 17 := Nat.pow_le_pow_right (by decide) (by omega)
  · have hcount' : count - (Nat.toDigits 10 d.digits).length = zeros := by omega
    rw [chars_fixedLiteral, Layout.plain, if_neg (by omega), hcount, Int.toNat_natCast]
    simp only [if_pos (show (Nat.toDigits 10 d.digits).length ≤ count by omega), hcount']
    rfl

section Scientific

variable {digits : Digits} {exponent : Int}

theorem chars_scientificLiteral : (scientificLiteral negative digits exponent).chars =
    signChars negative ++ Layout.scientific digits.chars exponent := by
  have hsign : (signedExponent exponent).sign.chars = [if exponent < 0 then '-' else '+'] := by
    show (if exponent < 0 then Sign.minus else Sign.plus).chars = _
    split <;> rfl
  have hexponent : (signedExponent exponent).chars =
      'e' :: (if exponent < 0 then '-' else '+') :: Nat.toDigits 10 exponent.natAbs := by
    rw [ExponentLiteral.chars, hsign]
    rfl
  obtain ⟨_ | ⟨c, _ | ⟨e, rest⟩⟩, hne, hdigit⟩ := digits
  · exact absurd rfl hne
  · have hscientific : Layout.scientific [c] exponent = [c] ++ (signedExponent exponent).chars := by
      rw [hexponent]
      rfl
    show signChars negative ++ [c] ++ [] ++ (signedExponent exponent).chars = _
    rw [hscientific, List.append_nil, List.append_assoc]
  · have hscientific : Layout.scientific (c :: e :: rest) exponent =
        [c] ++ ('.' :: e :: rest ++ (signedExponent exponent).chars) := by
      rw [hexponent]
      rfl
    show signChars negative ++ [c] ++ ('.' :: e :: rest) ++ (signedExponent exponent).chars = _
    rw [hscientific, List.append_assoc, List.append_assoc]

theorem fraction_scientificLiteral :
    (scientificLiteral negative digits exponent).numeral.fraction.getD [] = digits.chars.drop 1 := by
  obtain ⟨_ | ⟨c, _ | ⟨e, rest⟩⟩, hne, hdigit⟩ := digits
  · exact absurd rfl hne
  · rfl
  · rfl

theorem significand_scientificLiteral :
    (scientificLiteral negative digits exponent).numeral.significand = decimal digits.chars := by
  rw [Numeral.significand, fraction_scientificLiteral]
  show decimal (digits.chars.take 1 ++ digits.chars.drop 1) = _
  rw [List.take_append_drop]

theorem power_scientificLiteral :
    (scientificLiteral negative digits exponent).numeral.power =
      exponent - (digits.chars.length - 1 : Nat) := by
  have hwritten : (scientificLiteral negative digits exponent).numeral.writtenExponent = exponent := by
    show (if ((if exponent < 0 then Sign.minus else Sign.plus) == Sign.minus) = true then
      -(decimal (Nat.toDigits 10 exponent.natAbs) : Int)
      else (decimal (Nat.toDigits 10 exponent.natAbs) : Int)) = exponent
    rw [decimal_toDigits]
    by_cases hneg : exponent < 0
    · rw [if_pos hneg, if_pos (by decide)]
      omega
    · rw [if_neg hneg, if_neg (by decide)]
      omega
  rw [Numeral.power, hwritten, fraction_scientificLiteral, List.length_drop]

end Scientific

/-- One digit before the point, and an exponent. -/
theorem exists_shows_scientific (hsmall : (d.point - 1).natAbs < 0x80000000) :
    ∃ l : NumberLiteral, Shows l d ∧ l.negative = negative ∧
      l.chars = signChars negative ++
        Layout.scientific (Nat.toDigits 10 d.digits) (d.point - 1) := by
  have hlength : 0 < (Nat.toDigits 10 d.digits).length := Nat.length_toDigits_pos
  have hsignificand : (scientificLiteral negative (.ofNat d.digits) (d.point - 1)).numeral.significand =
      d.digits := by
    rw [significand_scientificLiteral, Digits.chars_ofNat, decimal_toDigits]
  have hpower : (scientificLiteral negative (.ofNat d.digits) (d.point - 1)).numeral.power =
      d.scale := by
    rw [power_scientificLiteral, Digits.chars_ofNat, Decimal.scale]
    omega
  refine ⟨scientificLiteral negative (.ofNat d.digits) (d.point - 1),
    ⟨?_, Or.inl ⟨hsignificand, hpower⟩, ?_, ?_⟩, rfl, chars_scientificLiteral negative⟩
  · rw [Numeral.spelled, Decimal.value, hsignificand, hpower]
  · intro minus digits h
    obtain ⟨-, rfl⟩ := Prod.mk.inj (Option.some.inj h)
    rwa [signedExponent, Digits.chars_ofNat, decimal_toDigits]
  · intro h
    exact absurd h.noExponent (by simp [scientificLiteral, NumberLiteral.numeral])

/-! ### The text of a number -/

theorem shortest_zero {m : Magnitude} (h : m.code = 0) (tie : Tie) : m.shortest tie = ⟨0, 1⟩ := by
  rw [Magnitude.shortest, if_pos h]

/-- **What is written for a floating point number is a literal that shows its shortest decimal.** -/
theorem exists_shows (x : Binary64) :
    ∃ l : NumberLiteral, (Number.real x).write = l.chars ∧ l.negative = x.negative ∧
      Shows l (x.magnitude.shortest .even) := by
  have hzero : (x.magnitude.shortest .even).digits = 0 → (x.magnitude.shortest .even).point = 1 := by
    intro hdigits
    by_cases hcode : x.magnitude.code = 0
    · rw [shortest_zero hcode]
    · exact absurd hdigits (Magnitude.shortest_faithful .even hcode).digits_pos.ne'
  have hsmall : ((x.magnitude.shortest .even).point - 1).natAbs < 0x80000000 := by
    by_cases hcode : x.magnitude.code = 0
    · rw [shortest_zero hcode]
      decide
    · have hfaithful := Magnitude.shortest_faithful .even hcode
      have hlow := hfaithful.scale_ge
      have hhigh := hfaithful.scale_le
      have hlength := hfaithful.length_le
      rw [Decimal.scale] at hlow hhigh
      omega
  have hwrite : (Number.real x).write = signChars x.negative ++
      if numberLayout.positional (x.magnitude.shortest .even).point then
        Layout.plain (Nat.toDigits 10 (x.magnitude.shortest .even).digits)
          (x.magnitude.shortest .even).point
      else Layout.scientific (Nat.toDigits 10 (x.magnitude.shortest .even).digits)
        ((x.magnitude.shortest .even).point - 1) := by
    rw [Number.write, Layout.write, signChars]
    cases x.negative <;> rfl
  rw [hwrite]
  generalize x.magnitude.shortest .even = d at *
  suffices h : ∃ l : NumberLiteral, Shows l d ∧ l.negative = x.negative ∧ l.chars = _ by
    obtain ⟨l, hshows, hnegative, hchars⟩ := h
    exact ⟨l, hchars.symm, hnegative, hshows⟩
  split
  · rename_i hpositional
    have hpoint : d.point ≤ 16 := by
      simp only [numberLayout, Bool.and_eq_true, decide_eq_true_eq] at hpositional
      exact hpositional.2
    by_cases hbefore : d.point ≤ 0
    · exact exists_shows_before _ hbefore
    · by_cases hamong : d.point < (Nat.toDigits 10 d.digits).length
      · exact exists_shows_among _ (by omega) hamong
      · exact exists_shows_behind _ (by omega) hpoint (by omega) hzero
  · exact exists_shows_scientific _ hsmall

end HttpGet.Json
