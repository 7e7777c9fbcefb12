/-
Scaling a significand.

A significand of 64 bits and a power of ten are rounded one by one, and so is their product or
quotient.  If both are magnitudes already, only the last rounding is left, and the result is the
magnitude nearest to the decimal.  Otherwise each of the three can be wrong by one part in
`2 ^ 53`, which together is two steps at most.  Below the least power of ten a second division
follows the first, and the error is three steps at most.
-/
import HttpGet.Json.Number
import HttpGet.Proofs.Decimal.Rounding

namespace HttpGet

namespace Magnitude

/-! ### Arithmetic -/

theorem mul?_eq_some_iff {a b m : Magnitude} :
    mul? a b = some m ↔ RoundsTo (value a.code * value b.code) m.code := by
  rw [mul?, nearest?_eq_some_iff (Nat.mul_pos a.denominator_pos b.denominator_pos),
    ← numerator_div_denominator, ← numerator_div_denominator, div_mul_div_comm, Nat.cast_mul,
    Nat.cast_mul]

/-- A product rounds to a magnitude, or beyond the largest one. -/
theorem exists_roundsTo_mul (a b : Magnitude) :
    ∃ code, RoundsTo (value a.code * value b.code) code := by
  rw [← numerator_div_denominator, ← numerator_div_denominator, div_mul_div_comm, ← Nat.cast_mul,
    ← Nat.cast_mul]
  exact ⟨_, roundsTo_nearestCode _ (Nat.mul_pos a.denominator_pos b.denominator_pos)⟩

theorem div?_eq_some_iff {a b m : Magnitude} (hb : b.code ≠ 0) :
    div? a b = some m ↔ RoundsTo (value a.code / value b.code) m.code := by
  rw [div?, nearest?_eq_some_iff (Nat.mul_pos a.denominator_pos (numerator_pos hb)),
    ← numerator_div_denominator, ← numerator_div_denominator, div_div_div_eq, Nat.cast_mul,
    Nat.cast_mul]

/-- The quotient by a magnitude that is one or more is in range. -/
theorem exists_div? {a b : Magnitude} (hb : b.code ≠ 0) (hone : 1 ≤ value b.code) :
    ∃ m, div? a b = some m := by
  refine exists_nearest? (Nat.mul_pos a.denominator_pos (numerator_pos hb)) a.code_lt ?_
  rw [Nat.cast_mul, Nat.cast_mul, ← div_div_div_eq, numerator_div_denominator,
    numerator_div_denominator]
  exact div_le_self (value_nonneg _) hone

/-- An integer of 53 bits is the value of a code, and so is its product with a power of two. -/
theorem exists_value_eq {significand : Nat} (h : significand ≤ 2 * binade) (exponent : Nat) :
    ∃ code, value code = (significand * 2 ^ exponent : Nat) := by
  by_cases hzero : significand = 0
  · exact ⟨0, by rw [hzero, Nat.zero_mul, Nat.cast_zero, value_zero]⟩
  · -- the significand is shifted up to the width of a binade
    have hlow := Nat.log2_self_le hzero
    have hhigh : significand < 2 ^ (significand.log2 + 1) := Nat.lt_log2_self
    obtain ⟨width, hwidth, hfrom, hto⟩ : ∃ width ≤ 52, 2 ^ width ≤ significand ∧
        significand ≤ 2 ^ (width + 1) := by
      by_cases hle : significand.log2 ≤ 52
      · exact ⟨significand.log2, hle, hlow, hhigh.le⟩
      · refine ⟨52, le_rfl, ?_, h⟩
        exact (Nat.pow_le_pow_right (by decide) (by omega)).trans hlow
    have hbinade : binade = 2 ^ width * 2 ^ (52 - width) := by
      rw [← pow_add, show width + (52 - width) = 52 by omega]
      rfl
    have hlow' : binade ≤ significand * 2 ^ (52 - width) := hbinade ▸ Nat.mul_le_mul_right _ hfrom
    have hhigh' : significand * 2 ^ (52 - width) ≤ 2 * binade := by
      rw [hbinade, ← mul_assoc, ← pow_succ']
      exact Nat.mul_le_mul_right _ hto
    have hplace : units ((width + exponent + 1022) * binade + significand * 2 ^ (52 - width)) =
        significand * 2 ^ (52 - width) * 2 ^ (width + exponent + 1022) :=
      units_place (Or.inr hlow') hhigh'
    refine ⟨(width + exponent + 1022) * binade + significand * 2 ^ (52 - width), ?_⟩
    have hpower : 52 - width + (width + exponent + 1022) = exponent + leastExponent := by
      rw [leastExponent]
      omega
    rw [value, hplace, mul_assoc, ← pow_add, hpower, pow_add, ← mul_assoc,
      div_eq_iff (by positivity), Nat.cast_mul, Nat.cast_pow 2 leastExponent, Nat.cast_ofNat]

/-- The magnitudes of two numbers, of which the one is the larger by two parts in `2 ^ 53` at most,
are two steps apart at most. -/
theorem RoundsTo.le_add_two {q q' : ℚ} {code code' : Nat} (h : RoundsTo q code)
    (h' : RoundsTo q' code')
    (hq : 2 * binade * (2 * binade) * q' ≤ (2 * binade + 1) * (2 * binade + 1) * q) :
    code' ≤ code + 2 :=
  h.le_add_of_factor h' (by norm_num [binade]) (by norm_num [binade]) hq (by norm_num [binade])

namespace Close

variable {parts parts' x x' y y' : ℚ}

theorem symm (h : Close parts x x') : Close parts x' x := ⟨h.right, h.left⟩

/-- The errors of the factors of a product add up. -/
theorem mul_le (hx : Close parts x x') (hy : Close parts' y y') (hparts : 0 ≤ parts)
    (hparts' : 0 ≤ parts') (hx' : 0 ≤ x') (hy' : 0 ≤ y) :
    parts * parts' * (x * y) ≤ (parts + 1) * (parts' + 1) * (x' * y') := by
  have h := mul_le_mul hx.left hy.left (by positivity) (by positivity)
  linarith

/-- The errors of the terms of a quotient add up. -/
theorem div_le (hx : Close parts x x') (hy : Close parts' y y') (hparts : 0 ≤ parts)
    (hparts' : 0 ≤ parts') (hx' : 0 ≤ x') (hy' : 0 < y) (hy'' : 0 < y') :
    parts * parts' * (x / y) ≤ (parts + 1) * (parts' + 1) * (x' / y') := by
  have h := hx.mul_le hy.symm hparts hparts' hx' hy''.le
  rw [mul_div_assoc', mul_div_assoc', div_le_div_iff₀ hy' hy'']
  linarith

/-- The error of a number that stands for another one adds to what it is compared with. -/
theorem trans_left {a a' z : ℚ} (h : Close parts x y) (hparts : 0 ≤ parts) (ha' : 0 ≤ a')
    (hz : a * z ≤ a' * x) : parts * a * z ≤ (parts + 1) * a' * y := by
  have h₁ := mul_le_mul_of_nonneg_left hz hparts
  have h₂ := mul_le_mul_of_nonneg_left h.left ha'
  linarith

theorem trans_right {a a' z : ℚ} (h : Close parts x y) (hparts : 0 ≤ parts) (ha : 0 ≤ a)
    (hz : a * x ≤ a' * z) : parts * a * y ≤ (parts + 1) * a' * z := by
  have h₁ := mul_le_mul_of_nonneg_left hz (by linarith : 0 ≤ parts + 1)
  have h₂ := mul_le_mul_of_nonneg_left h.right ha
  linarith

end Close

/-! ### Rounded integers -/

theorem RoundsTo.value_le {q : ℚ} {code least : Nat} (h : RoundsTo q code) (hq : value least ≤ q) :
    value least ≤ value code :=
  value_strictMono.monotone ((roundsTo_value least).le h hq)

/-- A number that rounds to a magnitude without an error. -/
theorem RoundsTo.value_eq {q : ℚ} {code : Nat} (h : RoundsTo q code)
    (hq : ∃ exact, value exact = q) : value code = q := by
  obtain ⟨exact, rfl⟩ := hq
  rw [h.unique (roundsTo_value exact)]

theorem exists_value_eq_one : ∃ code, value code = 1 := by
  simpa using exists_value_eq (show 1 ≤ 2 * binade by decide) 0

theorem RoundsTo.one_le {q : ℚ} {code : Nat} (h : RoundsTo q code) (hq : 1 ≤ q) : 1 ≤ value code := by
  obtain ⟨one, hone⟩ := exists_value_eq_one
  rw [← hone] at hq ⊢
  exact h.value_le hq

theorem RoundsTo.close_of_one_le {q : ℚ} {code : Nat} (h : RoundsTo q code) (hq : 1 ≤ q) :
    Close (2 * binade) q (value code) := by
  refine h.close (le_trans ?_ hq)
  rw [value, div_le_one (by positivity)]
  exact_mod_cast (by decide +kernel : units binade ≤ 2 ^ leastExponent)

theorem code_ne_zero {code : Nat} (h : 0 < value code) : code ≠ 0 := by
  rintro rfl
  exact h.ne' value_zero

/-- The largest magnitude is above the largest power of ten that is used. -/
theorem ten_pow_le_value_max : ((10 ^ Json.largestPower : Nat) : ℚ) ≤ value (2047 * binade - 1) := by
  rw [value, le_div_iff₀ (by positivity)]
  exact_mod_cast (by decide +kernel :
    10 ^ Json.largestPower * 2 ^ leastExponent ≤ units (2047 * binade - 1))

theorem ofNat?_roundsTo {n : Nat} (h : n ≤ 10 ^ Json.largestPower) :
    RoundsTo n ((ofNat? n).getD .zero).code := by
  have hn : (n : ℚ) ≤ (10 ^ Json.largestPower : Nat) := by exact_mod_cast h
  have hrange : (n : ℚ) / (1 : Nat) ≤ value (2047 * binade - 1) := by
    rw [Nat.cast_one, div_one]
    exact hn.trans ten_pow_le_value_max
  obtain ⟨m, hm⟩ := exists_nearest? Nat.one_pos (by decide) hrange
  have hrounds := (nearest?_eq_some_iff Nat.one_pos).mp hm
  rw [Nat.cast_one, div_one] at hrounds
  rwa [ofNat?, hm, Option.getD_some]

end Magnitude

namespace Json

open Magnitude

/-! ### Powers of ten -/

variable {n : Nat}

theorem powerOfTen_roundsTo (h : n ≤ largestPower) :
    RoundsTo (10 ^ n) (powerOfTen n).code := by
  have hrounds := ofNat?_roundsTo (Nat.pow_le_pow_right (by decide) h : 10 ^ n ≤ 10 ^ largestPower)
  rw [Nat.cast_pow, Nat.cast_ofNat] at hrounds
  exact hrounds

theorem one_le_powerOfTen (h : n ≤ largestPower) : 1 ≤ value (powerOfTen n).code :=
  (powerOfTen_roundsTo h).one_le (one_le_pow₀ (by norm_num))

theorem powerOfTen_close (h : n ≤ largestPower) : Close (2 * binade) (10 ^ n) (value (powerOfTen n).code) :=
  (powerOfTen_roundsTo h).close_of_one_le (one_le_pow₀ (by norm_num))

/-- The powers of ten up to `10 ^ 22` are magnitudes. -/
theorem value_powerOfTen (h : n ≤ 22) : value (powerOfTen n).code = 10 ^ n := by
  have hlargest : n ≤ largestPower := h.trans (by decide)
  have hfive : 5 ^ n ≤ 2 * binade := (Nat.pow_le_pow_right (by decide) h).trans (by decide)
  refine (powerOfTen_roundsTo hlargest).value_eq ?_
  obtain ⟨code, hcode⟩ := exists_value_eq hfive n
  refine ⟨code, hcode.trans ?_⟩
  rw [← Nat.mul_pow]
  norm_num

/-! ### One step -/

/-- The magnitude that a significand is rounded to before it is scaled. -/
def leading (significand : Nat) : Magnitude := (ofNat? significand).getD .zero

variable {significand : Nat} {m m' : Magnitude}

theorem scaled_natCast (h : n ≤ largestPower) :
    scaled significand n = some m' ↔
      RoundsTo (value (leading significand).code * value (powerOfTen n).code) m'.code := by
  rw [scaled, if_pos (Int.natCast_nonneg n), Int.toNat_natCast, scaleUp, if_pos h,
    ← leading, mul?_eq_some_iff]

/-- The magnitude nearest to the quotient of a magnitude and a power of ten. -/
def divided (m : Magnitude) (n : Nat) : Magnitude := (m.div? (powerOfTen n)).getD .zero

theorem scaleDown_eq (h : n ≤ largestPower) : scaleDown m n = divided m n := by
  rw [scaleDown, if_pos h, divided]

theorem divided_roundsTo (m : Magnitude) (h : n ≤ largestPower) :
    RoundsTo (value m.code / value (powerOfTen n).code) (divided m n).code := by
  have hone := one_le_powerOfTen h
  have hne := code_ne_zero (zero_lt_one.trans_le hone)
  obtain ⟨quotient, hquotient⟩ := exists_div? (a := m) hne hone
  rw [divided, hquotient]
  exact (div?_eq_some_iff hne).mp hquotient

theorem scaled_neg (hpos : 0 < n) (h : n ≤ largestPower) :
    scaled significand (-n) = some (divided (leading significand) n) := by
  rw [scaled, if_neg (by omega), neg_neg, Int.toNat_natCast, ← leading, scaleDown_eq h]

theorem leading_roundsTo (h : significand < 0x10000000000000000) :
    RoundsTo significand (leading significand).code :=
  ofNat?_roundsTo (h.le.trans ((by decide : 0x10000000000000000 ≤ 10 ^ 20).trans
    (Nat.pow_le_pow_right (by decide) (by decide))))

theorem leading_close (hpos : 0 < significand) (h : significand < 0x10000000000000000) :
    Close (2 * binade) significand (value (leading significand).code) :=
  (leading_roundsTo h).close_of_one_le (by exact_mod_cast hpos)

/-- A significand that is scaled up is wrong by two steps at most. -/
theorem code_mul_le (hpos : 0 < significand) (hfits : significand < 0x10000000000000000)
    (hn : n ≤ largestPower) {code code' : Nat} (h : RoundsTo (significand * 10 ^ n) code)
    (h' : RoundsTo (value (leading significand).code * value (powerOfTen n).code) code') :
    code ≤ code' + 2 ∧ code' ≤ code + 2 := by
  have hleading := leading_close hpos hfits
  have hpower := powerOfTen_close hn
  have hnonneg := value_nonneg (leading significand).code
  have hpos' : (0 : ℚ) < 10 ^ n := by positivity
  have hparts : (0 : ℚ) ≤ 2 * binade := by positivity
  constructor
  · exact h'.le_add_two h (hleading.mul_le hpower hparts hparts hnonneg hpos'.le)
  · exact h.le_add_two h'
      (hleading.symm.mul_le hpower.symm hparts hparts (Nat.cast_nonneg _) (value_nonneg _))

/-- A significand that is scaled down is wrong by two steps at most. -/
theorem apart_divided (hpos : 0 < significand) (hfits : significand < 0x10000000000000000)
    (hn : n ≤ largestPower) (hm : RoundsTo (significand / 10 ^ n) m.code) :
    Apart 2 m (divided (leading significand) n) := by
  have hm' := divided_roundsTo (leading significand) hn
  have hleading := leading_close hpos hfits
  have hpower := powerOfTen_close hn
  have hnonneg := value_nonneg (leading significand).code
  have hpos' : (0 : ℚ) < 10 ^ n := by positivity
  have hparts : (0 : ℚ) ≤ 2 * binade := by positivity
  have hpower' : (0 : ℚ) < value (powerOfTen n).code := zero_lt_one.trans_le (one_le_powerOfTen hn)
  exact {
    below := hm'.le_add_two hm (hleading.div_le hpower hparts hparts hnonneg hpos' hpower')
    above := hm.le_add_two hm'
      (hleading.symm.div_le hpower.symm hparts hparts (Nat.cast_nonneg _) hpower' hpos') }

/-! ### Two divisions -/

/-- The quotient of a significand and the largest power of ten that is used at once. -/
def lowered (significand : Nat) : Magnitude := divided (leading significand) largestPower

theorem scaled_neg_large (hpos : 0 < significand) (hfits : significand < 0x10000000000000000)
    (hn₀ : largestPower < n) (hn : n ≤ 2 * largestPower) :
    scaled significand (-n) = some (divided (lowered significand) (n - largestPower)) := by
  have hleading : (leading significand).code ≠ 0 :=
    code_ne_zero (zero_lt_one.trans_le ((leading_roundsTo hfits).one_le (by exact_mod_cast hpos)))
  rw [scaled, if_neg (by omega), neg_neg, Int.toNat_natCast, ← leading, scaleDown,
    if_neg (by omega), if_neg hleading, ← divided, ← lowered, scaleDown_eq (by omega)]

/-- The largest power of ten that is used is close to its magnitude as few others are. -/
theorem largestPower_close :
    Close (16 * binade) (10 ^ largestPower) (value (powerOfTen largestPower).code) := by
  have hbelow : 16 * binade * (10 ^ largestPower * 2 ^ leastExponent) ≤
      (16 * binade + 1) * units (powerOfTen largestPower).code := by decide +kernel
  have habove : 16 * binade * units (powerOfTen largestPower).code ≤
      (16 * binade + 1) * (10 ^ largestPower * 2 ^ leastExponent) := by decide +kernel
  have hbelow' : (16 * binade * (10 ^ largestPower * 2 ^ leastExponent) : ℚ) ≤
      (16 * binade + 1) * units (powerOfTen largestPower).code := by exact_mod_cast hbelow
  have habove' : (16 * binade * units (powerOfTen largestPower).code : ℚ) ≤
      (16 * binade + 1) * (10 ^ largestPower * 2 ^ leastExponent) := by exact_mod_cast habove
  rw [value]
  constructor
  · rw [mul_div_assoc', le_div_iff₀ (by positivity)]
    linarith
  · rw [mul_div_assoc', div_le_iff₀ (by positivity)]
    linarith

/-- The first quotient is not subnormal, unless the significand is one or two. -/
theorem lowered_close (hthree : 3 ≤ significand) (hfits : significand < 0x10000000000000000) :
    Close (2 * binade) (value (leading significand).code / value (powerOfTen largestPower).code)
      (value (lowered significand).code) := by
  refine (divided_roundsTo _ le_rfl).close ?_
  have hleast : value binade * value (powerOfTen largestPower).code ≤ 3 := by
    have h : units binade * units (powerOfTen largestPower).code ≤
        3 * (2 ^ leastExponent * 2 ^ leastExponent) := by decide +kernel
    have h' : (units binade * units (powerOfTen largestPower).code : ℚ) ≤
        3 * (2 ^ leastExponent * 2 ^ leastExponent) := by exact_mod_cast h
    rw [value, value, div_mul_div_comm, div_le_iff₀ (by positivity)]
    exact h'
  have hleading : 3 ≤ value (leading significand).code := by
    obtain ⟨three, hvalue⟩ := exists_value_eq (show 3 ≤ 2 * binade by decide) 0
    have hthree' : value three ≤ significand := by
      rw [hvalue]
      exact_mod_cast hthree
    have := (leading_roundsTo hfits).value_le hthree'
    rw [hvalue] at this
    exact_mod_cast this
  rw [le_div_iff₀ (zero_lt_one.trans_le (one_le_powerOfTen le_rfl))]
  exact hleast.trans hleading

/-- A significand that is scaled down twice is wrong by three steps at most. -/
theorem apart_divided_lowered (hthree : 3 ≤ significand)
    (hfits : significand < 0x10000000000000000) (hn₀ : largestPower < n)
    (hn : n ≤ largestPower + 22) (hm : RoundsTo (significand / 10 ^ n) m.code) :
    Apart 3 m (divided (lowered significand) (n - largestPower)) := by
  have hrest : n - largestPower ≤ 22 := by omega
  have hm' := divided_roundsTo (lowered significand) (hrest.trans (by decide))
  rw [value_powerOfTen hrest] at hm'
  have hsplit : (significand : ℚ) / 10 ^ n =
      significand / 10 ^ largestPower / 10 ^ (n - largestPower) := by
    rw [div_div, ← pow_add, Nat.add_sub_cancel' hn₀.le]
  rw [hsplit] at hm
  have hparts : (0 : ℚ) ≤ 2 * binade := by positivity
  have hparts' : (0 : ℚ) ≤ 16 * binade := by positivity
  have hsums : (0 : ℚ) ≤ (2 * binade + 1) * (16 * binade + 1) := by positivity
  have hleading := leading_close (by omega) hfits
  have hpower := largestPower_close
  have hlowered := lowered_close hthree hfits
  have hpos : (0 : ℚ) < 10 ^ largestPower := by positivity
  have hpos' := zero_lt_one.trans_le (one_le_powerOfTen le_rfl)
  have hdown : (0 : ℚ) < 10 ^ (n - largestPower) := by positivity
  have hbelow := hleading.div_le hpower hparts hparts' (value_nonneg _) hpos hpos'
  have habove := hleading.symm.div_le hpower.symm hparts hparts' (Nat.cast_nonneg _) hpos' hpos
  generalize (10 : ℚ) ^ largestPower = largest at *
  generalize (10 : ℚ) ^ (n - largestPower) = rest at *
  -- both comparisons, before the second division
  have hbelow' := hlowered.trans_left hparts hsums hbelow
  have habove' := hlowered.trans_right hparts (mul_nonneg hparts hparts') habove
  have hdivide : ∀ {a a' x y : ℚ}, a * x ≤ a' * y → a * (x / rest) ≤ a' * (y / rest) := by
    intro a a' x y h
    rw [mul_div_assoc', mul_div_assoc']
    gcongr
  constructor
  · exact hm'.le_add_of_factor hm (by norm_num [binade]) (by norm_num [binade]) (hdivide hbelow')
      (by norm_num [binade])
  · exact hm.le_add_of_factor hm' (by norm_num [binade]) (by norm_num [binade]) (hdivide habove')
      (by norm_num [binade])

/-- From one and two the quotient is subnormal, and yet the result is the nearest. -/
theorem nearestCode_eq_divided_lowered :
    ∀ rest < 17, ∀ significand < 3, 0 < rest → 0 < significand →
      nearestCode significand (10 ^ (largestPower + rest)) =
        (divided (lowered significand) rest).code := by
  decide +kernel

theorem eq_of_small (hpos : 0 < significand) (hsmall : significand < 3) (hn₀ : largestPower < n)
    (hn : n ≤ largestPower + 16) (hm : RoundsTo (significand / 10 ^ n) m.code) :
    m = divided (lowered significand) (n - largestPower) := by
  obtain ⟨rest, rfl⟩ := Nat.exists_eq_add_of_le hn₀.le
  have hnearest := roundsTo_nearestCode significand
    (show 0 < 10 ^ (largestPower + rest) by positivity)
  rw [Nat.cast_pow, Nat.cast_ofNat] at hnearest
  have hcode := nearestCode_eq_divided_lowered rest (by omega) significand hsmall (by omega) hpos
  rw [Nat.add_sub_cancel_left]
  exact eq_of_code_eq ((hm.unique hnearest).trans hcode)

/-! ### All significands -/

/-- A significand that fits its register, and a power of ten that is in range. -/
structure Scalable (significand : Nat) (exponent : Int) : Prop where
  pos : 0 < significand
  fits : significand < 0x10000000000000000
  low : -324 ≤ exponent
  high : exponent ≤ largestPower

/-- How many steps a significand that is scaled by a power of ten can be wrong by. -/
def drift (exponent : Int) : Nat := if exponent < -largestPower then 3 else 2

variable {exponent : Int}

/-- **A significand is scaled to the nearest magnitude or to one a few steps from it.** -/
theorem apart_of_scaled (h : Scalable significand exponent)
    (hm : RoundsTo (significand * 10 ^ exponent) m.code)
    (hm' : scaled significand exponent = some m') : Apart (drift exponent) m m' := by
  have hlow := h.low
  have hhigh := h.high
  rcases lt_or_ge exponent 0 with hneg | hnonneg
  · obtain ⟨n, hn, rfl⟩ : ∃ n : Nat, 0 < n ∧ exponent = -n := ⟨exponent.natAbs, by omega, by omega⟩
    rw [zpow_neg, zpow_natCast, ← div_eq_mul_inv] at hm
    by_cases hlarge : largestPower < n
    · have hlargest : largestPower = 308 := rfl
      rw [drift, if_pos (by omega)]
      rw [scaled_neg_large h.pos h.fits hlarge (by omega), Option.some.injEq] at hm'
      subst hm'
      by_cases hsmall : significand < 3
      · rw [← eq_of_small h.pos hsmall hlarge (by omega) hm]
        exact ⟨Nat.le_add_right .., Nat.le_add_right ..⟩
      · exact apart_divided_lowered (by omega) h.fits hlarge (by omega) hm
    · rw [drift, if_neg (by omega)]
      rw [scaled_neg hn (by omega), Option.some.injEq] at hm'
      subst hm'
      exact apart_divided h.pos h.fits (by omega) hm
  · obtain ⟨n, rfl⟩ := Int.eq_ofNat_of_zero_le hnonneg
    rw [drift, if_neg (by omega)]
    rw [zpow_natCast] at hm
    obtain ⟨hbelow, habove⟩ := code_mul_le h.pos h.fits (by omega) hm
      ((scaled_natCast (by omega)).mp hm')
    exact ⟨hbelow, habove⟩

/-- A significand that is scaled down is scaled to a number, and one that is scaled up is unless
the number is one of the largest two. -/
theorem exists_scaled (h : Scalable significand exponent)
    (hm : RoundsTo (significand * 10 ^ exponent) m.code)
    (hroom : exponent < 0 ∨ m.code + 2 < 2047 * binade) :
    ∃ m', scaled significand exponent = some m' := by
  have hhigh := h.high
  rcases lt_or_ge exponent 0 with hneg | hnonneg
  · rw [scaled, if_neg (by omega)]
    exact ⟨_, rfl⟩
  · obtain ⟨n, rfl⟩ := Int.eq_ofNat_of_zero_le hnonneg
    rw [zpow_natCast] at hm
    obtain ⟨code, hcode⟩ := exists_roundsTo_mul (leading significand) (powerOfTen n)
    have hle := (code_mul_le h.pos h.fits (by omega) hm hcode).2
    exact ⟨⟨code, by omega⟩, (scaled_natCast (by omega)).mpr hcode⟩

/-- **Where the significand and the power of ten are magnitudes, the significand is scaled to the
nearest magnitude.** -/
theorem scaled_exact (hfits : significand < 0x10000000000000000)
    (hvalue : ∃ code, value code = significand) (hpower : exponent.natAbs ≤ 22)
    (hm : RoundsTo (significand * 10 ^ exponent) m.code) : scaled significand exponent = some m := by
  have hleading := (leading_roundsTo hfits).value_eq hvalue
  have hlargest : exponent.natAbs ≤ largestPower := hpower.trans (by decide)
  have hten := value_powerOfTen hpower
  rcases lt_or_ge exponent 0 with hneg | hnonneg
  · obtain ⟨n, hn, rfl⟩ : ∃ n : Nat, 0 < n ∧ exponent = -n := ⟨exponent.natAbs, by omega, by omega⟩
    rw [Int.natAbs_neg, Int.natAbs_natCast] at hlargest hten
    rw [zpow_neg, zpow_natCast, ← div_eq_mul_inv] at hm
    rw [scaled_neg hn hlargest, Option.some.injEq]
    have hrounds := divided_roundsTo (leading significand) hlargest
    rw [hleading, hten] at hrounds
    exact eq_of_code_eq (hrounds.unique hm)
  · obtain ⟨n, rfl⟩ := Int.eq_ofNat_of_zero_le hnonneg
    rw [Int.natAbs_natCast] at hlargest hten
    rw [zpow_natCast] at hm
    rwa [scaled_natCast hlargest, hleading, hten]

end Json
end HttpGet
