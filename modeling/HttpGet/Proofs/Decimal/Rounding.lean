/-
Rounding.

The values of the magnitudes grow with their codes, and from one to the next by a step that is
never smaller than the one before and at most twice as large.  A number rounds to the magnitude
between whose two midpoints it lies; a midpoint itself belongs to the even one of its two
neighbours.  `Magnitude.nearest?` computes the magnitude that a fraction rounds to, so what it
does is read off the intervals: which fractions give a magnitude, that it is monotone, and how
large its error can be.

Here the codes go on beyond the largest magnitude, so that a number always rounds to one, and a
number is out of range if its code is.
-/
import HttpGet.Decimal.Binary64
import Mathlib.Algebra.Order.Field.Power
import Mathlib.Algebra.Order.Field.Rat
import Mathlib.Order.Monotone.Basic
import Mathlib.Tactic.FieldSimp
import Mathlib.Tactic.Linarith
import Mathlib.Tactic.Positivity
import Mathlib.Tactic.Ring

namespace HttpGet.Magnitude

/-- Powers are computed by `Nat.pow` and reasoned about in the semiring. -/
theorem natPow_eq (base exponent : Nat) : Nat.pow base exponent = base ^ exponent := rfl

theorem eq_of_code_eq {a b : Magnitude} (h : a.code = b.code) : a = b := by
  cases a
  cases b
  exact (Magnitude.mk.injEq ..).mpr h

/-! ### The values of the codes -/

/-- How many least units the magnitude with a code has. -/
def units (code : Nat) : Nat :=
  (if code < binade then code else binade + code % binade) * 2 ^ (code / binade - 1)

/-- How many least units lie from the magnitude with a code to the next. -/
def step (code : Nat) : Nat := 2 ^ (code / binade - 1)

theorem step_pos (code : Nat) : 0 < step code := Nat.two_pow_pos _

theorem step_mono {a b : Nat} (h : a ≤ b) : step a ≤ step b :=
  Nat.pow_le_pow_right (by decide) (Nat.sub_le_sub_right (Nat.div_le_div_right h) 1)

/-- A significand and a shift spell the units of their code, also the significand that carries
into the next power of two. -/
theorem units_place {shift significand : Nat} (hlow : shift = 0 ∨ binade ≤ significand)
    (hhigh : significand ≤ 2 * binade) :
    units (shift * binade + significand) = significand * 2 ^ shift := by
  rw [units]
  by_cases hsmall : significand < binade
  · obtain rfl : shift = 0 := hlow.resolve_right (by omega)
    rw [Nat.zero_mul, Nat.zero_add, if_pos hsmall, Nat.div_eq_of_lt hsmall]
  · rw [if_neg (by omega)]
    by_cases hcarry : significand < 2 * binade
    · have hmod : (shift * binade + significand) % binade = significand - binade := by
        simp only [binade] at *
        omega
      have hdiv : (shift * binade + significand) / binade - 1 = shift := by
        simp only [binade] at *
        omega
      rw [hmod, hdiv, Nat.add_sub_cancel' (Nat.le_of_not_lt hsmall)]
    · obtain rfl : significand = 2 * binade := by omega
      have hmod : (shift * binade + 2 * binade) % binade = 0 := by
        simp only [binade]
        omega
      have hdiv : (shift * binade + 2 * binade) / binade - 1 = shift + 1 := by
        simp only [binade]
        omega
      rw [hmod, hdiv, pow_succ]
      ring

theorem step_place {shift significand : Nat} (hlow : shift = 0 ∨ binade ≤ significand)
    (hhigh : significand < 2 * binade) : step (shift * binade + significand) = 2 ^ shift := by
  rw [step]
  congr 1
  simp only [binade] at *
  omega

/-- Every code has a shift and a significand. -/
theorem exists_place (code : Nat) : ∃ shift significand, code = shift * binade + significand ∧
    (shift = 0 ∨ binade ≤ significand) ∧ significand < 2 * binade := by
  refine ⟨code / binade - 1, code - (code / binade - 1) * binade, ?_, ?_, ?_⟩
  all_goals
    simp only [binade]
    omega

theorem units_succ (code : Nat) : units (code + 1) = units code + step code := by
  obtain ⟨shift, significand, rfl, hlow, hhigh⟩ := exists_place code
  rw [step_place hlow hhigh, units_place hlow hhigh.le, Nat.add_assoc,
    units_place (hlow.imp_right Nat.le_succ_of_le) hhigh, Nat.succ_mul]

theorem units_strictMono : StrictMono units :=
  strictMono_nat_of_lt_succ fun code => by
    rw [units_succ]
    exact Nat.lt_add_of_pos_right (step_pos code)

theorem le_units {code : Nat} (h : binade ≤ code) : binade * step code ≤ units code := by
  obtain ⟨shift, significand, rfl, hlow, hhigh⟩ := exists_place code
  have hsignificand : binade ≤ significand := by
    rcases hlow with rfl | hlow
    · simpa using h
    · exact hlow
  rw [step_place hlow hhigh, units_place hlow hhigh.le]
  exact Nat.mul_le_mul_right _ hsignificand

theorem units_add_step_le (code : Nat) : units code + step code ≤ 2 * binade * step code := by
  obtain ⟨shift, significand, rfl, hlow, hhigh⟩ := exists_place code
  rw [step_place hlow hhigh, units_place hlow hhigh.le]
  calc significand * 2 ^ shift + 2 ^ shift = (significand + 1) * 2 ^ shift := by ring
    _ ≤ 2 * binade * 2 ^ shift := Nat.mul_le_mul_right _ hhigh

/-! ### Midpoints -/

/-- The value of the magnitude with a code. -/
def value (code : Nat) : ℚ := units code / 2 ^ leastExponent

/-- The distance from the magnitude with a code to the next. -/
def ulp (code : Nat) : ℚ := step code / 2 ^ leastExponent

/-- The midpoint between the magnitude with a code and the next. -/
def midpoint (code : Nat) : ℚ := (value code + value (code + 1)) / 2

theorem value_succ (code : Nat) : value (code + 1) = value code + ulp code := by
  rw [value, units_succ, value, ulp, Nat.cast_add, add_div]

theorem ulp_pos (code : Nat) : 0 < ulp code := by
  have := step_pos code
  rw [ulp]
  positivity

theorem ulp_mono {a b : Nat} (h : a ≤ b) : ulp a ≤ ulp b := by
  have hstep : (step a : ℚ) ≤ step b := by exact_mod_cast step_mono h
  rw [ulp, ulp]
  gcongr

theorem midpoint_eq (code : Nat) : midpoint code = value code + ulp code / 2 := by
  rw [midpoint, value_succ]
  ring

theorem midpoint_eq_succ (code : Nat) : midpoint code = value (code + 1) - ulp code / 2 := by
  rw [midpoint_eq, value_succ]
  ring

theorem value_strictMono : StrictMono value := by
  intro a b h
  have hunits : (units a : ℚ) < units b := by exact_mod_cast units_strictMono h
  rw [value, value]
  gcongr

theorem midpoint_strictMono : StrictMono midpoint := by
  intro a b h
  have hvalue := value_strictMono h
  have hsucc := value_strictMono (Nat.succ_lt_succ h)
  rw [midpoint, midpoint]
  linarith

/-- A number rounds to the magnitude with a code if it lies between the midpoints around it; on
a midpoint, if the code is even. -/
structure RoundsTo (q : ℚ) (code : Nat) : Prop where
  lower : ∀ below, code = below + 1 → midpoint below ≤ q
  upper : q ≤ midpoint code
  odd : code % 2 = 1 → (∀ below, code = below + 1 → midpoint below < q) ∧ q < midpoint code

namespace RoundsTo

variable {q q' : ℚ} {code code' : Nat}

/-- A number that is not smaller rounds to no smaller magnitude. -/
theorem le (h : RoundsTo q code) (h' : RoundsTo q' code') (hq : q ≤ q') : code ≤ code' := by
  by_contra hlt
  obtain ⟨below, rfl⟩ : ∃ below, code = below + 1 := ⟨code - 1, by omega⟩
  have hmid : midpoint code' ≤ midpoint below := midpoint_strictMono.monotone (by omega)
  have hlower := h.lower below rfl
  have hupper := h'.upper
  -- both numbers are on one midpoint, which cannot belong to both of its neighbours
  obtain rfl : code' = below := midpoint_strictMono.injective (by linarith)
  rcases Nat.mod_two_eq_zero_or_one code' with heven | hodd
  · have := (h.odd (by omega)).1 code' rfl
    linarith
  · have := (h'.odd hodd).2
    linarith

theorem unique (h : RoundsTo q code) (h' : RoundsTo q code') : code = code' :=
  Nat.le_antisymm (h.le h' le_rfl) (h'.le h le_rfl)

/-- The numbers that round to a magnitude have no gap. -/
theorem between {a b c : ℚ} (ha : RoundsTo a code) (hc : RoundsTo c code) (hab : a ≤ b)
    (hbc : b ≤ c) : RoundsTo b code where
  lower below h := (ha.lower below h).trans hab
  upper := hbc.trans hc.upper
  odd h := ⟨fun below heq => ((ha.odd h).1 below heq).trans_le hab, hbc.trans_lt (hc.odd h).2⟩

end RoundsTo

/-- The interval of a magnitude other than zero. -/
theorem roundsTo_succ_iff {q : ℚ} {below : Nat} :
    RoundsTo q (below + 1) ↔
      if (below + 1) % 2 = 0 then midpoint below ≤ q ∧ q ≤ midpoint (below + 1)
      else midpoint below < q ∧ q < midpoint (below + 1) := by
  split
  · rename_i heven
    constructor
    · exact fun h => ⟨h.lower below rfl, h.upper⟩
    · rintro ⟨hlow, hhigh⟩
      refine ⟨?_, hhigh, fun hodd => absurd heven (by omega)⟩
      rintro other hother
      rwa [← Nat.succ.inj hother]
  · rename_i hodd
    constructor
    · intro h
      obtain ⟨hlow, hhigh⟩ := h.odd (by omega)
      exact ⟨hlow below rfl, hhigh⟩
    · rintro ⟨hlow, hhigh⟩
      have hlows : ∀ other, below + 1 = other + 1 → midpoint other < q := by
        rintro other hother
        rwa [← Nat.succ.inj hother]
      exact ⟨fun other h => (hlows other h).le, hhigh.le, fun _ => ⟨hlows, hhigh⟩⟩

/-- What is less than half the step below a magnitude away from it rounds to it. -/
theorem roundsTo_of_close {q : ℚ} {below : Nat} (hlower : value (below + 1) - ulp below / 2 < q)
    (hupper : q < value (below + 1) + ulp below / 2) : RoundsTo q (below + 1) := by
  have hlow : midpoint below < q := by rwa [midpoint_eq_succ]
  have hhigh : q < midpoint (below + 1) := by
    have := ulp_mono (Nat.le_succ below)
    rw [midpoint_eq]
    linarith
  rw [roundsTo_succ_iff]
  split
  · exact ⟨hlow.le, hhigh.le⟩
  · exact ⟨hlow, hhigh⟩

/-- The value of a magnitude rounds to it. -/
theorem roundsTo_value (code : Nat) : RoundsTo (value code) code := by
  have hupper : value code < midpoint code := by
    have := ulp_pos code
    rw [midpoint_eq]
    linarith
  have hlower : ∀ below, code = below + 1 → midpoint below < value code := by
    rintro below rfl
    have := ulp_pos below
    rw [midpoint_eq, value_succ]
    linarith
  exact ⟨fun below h => (hlower below h).le, hupper.le, fun _ => ⟨hlower, hupper⟩⟩

/-! ### The nearest magnitude -/

/-- The rounded quotient is at most half a unit away, and even if it is half a unit away. -/
theorem roundedQuotient_bounds (num : Nat) {den : Nat} (hden : 0 < den) :
    2 * num ≤ (2 * roundedQuotient .even num den + 1) * den ∧
      2 * roundedQuotient .even num den * den ≤ 2 * num + den ∧
      (roundedQuotient .even num den % 2 = 1 →
        2 * num < (2 * roundedQuotient .even num den + 1) * den ∧
          2 * roundedQuotient .even num den * den < 2 * num + den) := by
  have hdiv := Nat.div_add_mod num den
  have hmod := Nat.mod_lt num hden
  simp only [roundedQuotient]
  generalize num / den = quotient at *
  generalize num % den = rest at *
  have hone : (2 * (quotient + 1) + 1) * den = 2 * (den * quotient) + 3 * den := by ring
  have htwo : 2 * (quotient + 1) * den = 2 * (den * quotient) + 2 * den := by ring
  have hthree : (2 * quotient + 1) * den = 2 * (den * quotient) + den := by ring
  have hfour : 2 * quotient * den = 2 * (den * quotient) := by ring
  split
  · rename_i hup
    simp only [Bool.or_eq_true, Bool.and_eq_true, decide_eq_true_eq, reduceCtorEq, decide_false,
      Bool.false_or] at hup
    rw [hone, htwo]
    omega
  · rename_i hdown
    simp only [Bool.or_eq_true, Bool.and_eq_true, decide_eq_true_eq, reduceCtorEq, decide_false,
      Bool.false_or, not_or, not_and] at hdown
    rw [hthree, hfour]
    omega

/-- The estimate of the shift leaves 53 or 54 bits before the point, or fewer if it is none. -/
theorem shiftEstimate_bounds {num den : Nat} (hnum : 0 < num) (hden : 0 < den) :
    num * 2 ^ leastExponent < 4 * binade *
        (den * 2 ^ (num.log2 + leastExponent - (den.log2 + 53))) ∧
      (num.log2 + leastExponent - (den.log2 + 53) = 0 ∨
        binade * (den * 2 ^ (num.log2 + leastExponent - (den.log2 + 53))) ≤
          num * 2 ^ leastExponent) := by
  have hnumLow : 2 ^ num.log2 ≤ num := Nat.log2_self_le hnum.ne'
  have hnumHigh : num < 2 ^ (num.log2 + 1) := Nat.lt_log2_self
  have hdenLow : 2 ^ den.log2 ≤ den := Nat.log2_self_le hden.ne'
  have hdenHigh : den < 2 ^ (den.log2 + 1) := Nat.lt_log2_self
  have hbinade : binade = 2 ^ 52 := by norm_num [binade]
  generalize num.log2 = a at *
  generalize den.log2 = b at *
  generalize hestimate : a + leastExponent - (b + 53) = estimate
  constructor
  · calc num * 2 ^ leastExponent
        < 2 ^ (a + 1) * 2 ^ leastExponent := Nat.mul_lt_mul_of_pos_right hnumHigh (by positivity)
      _ = 2 ^ (a + 1 + leastExponent) := (pow_add ..).symm
      _ ≤ 2 ^ (54 + (b + estimate)) := Nat.pow_le_pow_right (by decide) (by omega)
      _ = 4 * binade * (2 ^ b * 2 ^ estimate) := by rw [hbinade, pow_add, pow_add]; norm_num
      _ ≤ 4 * binade * (den * 2 ^ estimate) :=
          Nat.mul_le_mul_left _ (Nat.mul_le_mul_right _ hdenLow)
  · by_cases hzero : estimate = 0
    · exact Or.inl hzero
    · refine Or.inr ?_
      calc binade * (den * 2 ^ estimate)
          ≤ binade * (2 ^ (b + 1) * 2 ^ estimate) :=
            Nat.mul_le_mul_left _ (Nat.mul_le_mul_right _ hdenHigh.le)
        _ = 2 ^ (a + leastExponent) := by
            rw [hbinade, ← pow_add, ← pow_add]
            congr 1
            omega
        _ = 2 ^ a * 2 ^ leastExponent := pow_add ..
        _ ≤ num * 2 ^ leastExponent := Nat.mul_le_mul_right _ hnumLow

/-- The shift leaves 53 bits before the point, or fewer if it is none. -/
theorem shiftFor_bounds {num den : Nat} (hnum : 0 < num) (hden : 0 < den) :
    num * 2 ^ leastExponent < 2 * binade * (den * 2 ^ shiftFor num den) ∧
      (shiftFor num den = 0 ∨
        binade * (den * 2 ^ shiftFor num den) ≤ num * 2 ^ leastExponent) := by
  obtain ⟨hhigh, hlow⟩ := shiftEstimate_bounds hnum hden
  rw [shiftFor]
  generalize num.log2 + leastExponent - (den.log2 + 53) = estimate at *
  simp only [natPow_eq]
  generalize num * 2 ^ leastExponent = total at *
  have hpos : 0 < den * 2 ^ estimate := by positivity
  split
  · rename_i hfits
    exact ⟨(Nat.div_lt_iff_lt_mul hpos).mp hfits, hlow⟩
  · rename_i hlarge
    have hquotient := (Nat.le_div_iff_mul_le hpos).mp (Nat.le_of_not_lt hlarge)
    have hdouble : den * 2 ^ (estimate + 1) = 2 * (den * 2 ^ estimate) := by
      rw [pow_succ]
      ring
    rw [hdouble]
    exact ⟨by linarith, Or.inr (by linarith)⟩

/-- How far a fraction is scaled down before it is rounded. -/
def nearestShift (num den : Nat) : Nat := if num = 0 then 0 else shiftFor num den

theorem nearestShift_bounds (num : Nat) {den : Nat} (hden : 0 < den) :
    num * 2 ^ leastExponent < 2 * binade * (den * 2 ^ nearestShift num den) ∧
      (nearestShift num den = 0 ∨
        binade * (den * 2 ^ nearestShift num den) ≤ num * 2 ^ leastExponent) := by
  rw [nearestShift]
  by_cases hnum : num = 0
  · rw [if_pos hnum, hnum, Nat.zero_mul, pow_zero, Nat.mul_one]
    exact ⟨Nat.mul_pos (by decide) hden, Or.inl rfl⟩
  · rw [if_neg hnum]
    exact shiftFor_bounds (Nat.pos_of_ne_zero hnum) hden

/-- The code of the magnitude that is nearest to a fraction; it may be out of range. -/
def nearestCode (num den : Nat) : Nat :=
  nearestShift num den * binade +
    roundedQuotient .even (num * 2 ^ leastExponent) (den * 2 ^ nearestShift num den)

theorem nearest?_eq_some_iff_code {num den : Nat} {m : Magnitude} :
    nearest? num den = some m ↔ nearestCode num den = m.code := by
  obtain ⟨code, hcode⟩ := m
  by_cases hlt : nearestCode num den < 2047 * binade
  · simp only [nearestCode, nearestShift] at hlt ⊢
    simp only [nearest?, natPow_eq]
    rw [dif_pos hlt, Option.some.injEq, Magnitude.mk.injEq]
  · have hne : nearestCode num den ≠ code := fun heq => hlt (heq ▸ hcode)
    simp only [nearestCode, nearestShift] at hlt hne ⊢
    simp only [nearest?, natPow_eq]
    rw [dif_neg hlt]
    simp only [reduceCtorEq, hne]

theorem le_step_place {shift significand : Nat} (hlow : shift = 0 ∨ binade ≤ significand) :
    2 ^ shift ≤ step (shift * binade + significand) := by
  rw [step]
  refine Nat.pow_le_pow_right (by decide) ?_
  simp only [binade] at *
  omega

/-- The rounded quotient as a rounding of rational numbers. -/
theorem roundedQuotient_near (num : Nat) {den : Nat} (hden : 0 < den) :
    (num : ℚ) / den ≤ roundedQuotient .even num den + 1 / 2 ∧
      roundedQuotient .even num den - 1 / 2 ≤ (num : ℚ) / den ∧
      (roundedQuotient .even num den % 2 = 1 →
        (num : ℚ) / den < roundedQuotient .even num den + 1 / 2 ∧
          roundedQuotient .even num den - 1 / 2 < (num : ℚ) / den) := by
  obtain ⟨hbelow, habove, htie⟩ := roundedQuotient_bounds num hden
  generalize roundedQuotient .even num den = quotient at *
  have hpos : (0 : ℚ) < den := by exact_mod_cast hden
  have hbelow' : (2 * num : ℚ) ≤ (2 * quotient + 1) * den := by exact_mod_cast hbelow
  have habove' : (2 * quotient * den : ℚ) ≤ 2 * num + den := by exact_mod_cast habove
  refine ⟨?_, ?_, fun hodd => ?_⟩
  · rw [div_le_iff₀ hpos]
    linarith
  · rw [le_div_iff₀ hpos]
    linarith
  · obtain ⟨hlt, hgt⟩ := htie hodd
    have hlt' : (2 * num : ℚ) < (2 * quotient + 1) * den := by exact_mod_cast hlt
    have hgt' : (2 * quotient * den : ℚ) < 2 * num + den := by exact_mod_cast hgt
    rw [div_lt_iff₀ hpos, lt_div_iff₀ hpos]
    exact ⟨by linarith, by linarith⟩

/-- A number that is scaled to a significand and rounded there is rounded to a magnitude. -/
theorem roundsTo_of_near {x : ℚ} {shift significand : Nat}
    (hlow : shift = 0 ∨ binade ≤ significand) (hhigh : significand ≤ 2 * binade)
    (hcarry : shift = 0 ∨ (binade : ℚ) ≤ x)
    (habove : x ≤ significand + 1 / 2) (hbelow : significand - 1 / 2 ≤ x)
    (htie : significand % 2 = 1 → x < significand + 1 / 2 ∧ significand - 1 / 2 < x) :
    RoundsTo (x * (2 ^ shift / 2 ^ leastExponent)) (shift * binade + significand) := by
  generalize hunit : (2 ^ shift / 2 ^ leastExponent : ℚ) = unit
  have hpos : 0 < unit := by
    rw [← hunit]
    positivity
  have hvalue : value (shift * binade + significand) = significand * unit := by
    rw [value, units_place hlow hhigh, ← hunit]
    push_cast
    ring
  have hulp : unit ≤ ulp (shift * binade + significand) := by
    have h : (2 ^ shift : ℚ) ≤ step (shift * binade + significand) := by
      exact_mod_cast le_step_place hlow
    rw [← hunit, ulp]
    gcongr
  have hparity : (shift * binade + significand) % 2 = significand % 2 := by
    simp only [binade]
    omega
  -- the midpoint below: where the significand is the least of its binade the number is not
  -- below the value, and elsewhere the step below is the unit
  have hmidpoint : ∀ below, shift * binade + significand = below + 1 →
      midpoint below < x * unit ∨ midpoint below = (significand - 1 / 2) * unit := by
    intro below hcode
    rw [midpoint_eq_succ, ← hcode, hvalue]
    by_cases hleast : shift = 0 ∨ binade + 1 ≤ significand
    · obtain ⟨less, rfl⟩ : ∃ less, significand = less + 1 := by
        refine ⟨significand - 1, ?_⟩
        rcases hleast with rfl | hleast <;> omega
      obtain rfl : below = shift * binade + less := by omega
      have hstep : ulp (shift * binade + less) = unit := by
        rw [ulp, step_place (hleast.imp_right Nat.le_of_succ_le_succ) (by omega), ← hunit]
        push_cast
        rfl
      right
      rw [hstep]
      ring
    · left
      have hx := hcarry.resolve_left (by omega)
      have hbinade : significand = binade := by omega
      have hscaled := mul_le_mul_of_nonneg_right hx hpos.le
      have := ulp_pos below
      rw [hbinade]
      linarith
  have hupper : midpoint (shift * binade + significand) ≥ (significand + 1 / 2) * unit := by
    rw [midpoint_eq, hvalue]
    linarith
  refine ⟨fun below hcode => ?_, ?_, fun hodd => ?_⟩
  · rcases hmidpoint below hcode with hlt | heq
    · exact hlt.le
    · rw [heq]
      gcongr
  · exact le_trans (by gcongr) hupper
  · obtain ⟨hlt, hgt⟩ := htie (hparity ▸ hodd)
    refine ⟨fun below hcode => ?_, lt_of_lt_of_le (by gcongr) hupper⟩
    rcases hmidpoint below hcode with hlt | heq
    · exact hlt
    · rw [heq]
      gcongr

/-- A fraction rounds to the magnitude that is nearest to it. -/
theorem roundsTo_nearestCode (num : Nat) {den : Nat} (hden : 0 < den) :
    RoundsTo (num / den) (nearestCode num den) := by
  obtain ⟨hhigh, hlow⟩ := nearestShift_bounds num hden
  rw [nearestCode]
  generalize nearestShift num den = shift at *
  have hscaled : 0 < den * 2 ^ shift := by positivity
  obtain ⟨habove, hbelow, htie⟩ := roundedQuotient_near (num * 2 ^ leastExponent) hscaled
  generalize roundedQuotient .even (num * 2 ^ leastExponent) (den * 2 ^ shift) = significand at *
  have hpos : (0 : ℚ) < (den * 2 ^ shift : Nat) := by exact_mod_cast hscaled
  have hfraction : (num : ℚ) / den = ((num * 2 ^ leastExponent : Nat) / (den * 2 ^ shift : Nat)) *
      (2 ^ shift / 2 ^ leastExponent) := by
    have : (den : ℚ) ≠ 0 := by exact_mod_cast hden.ne'
    push_cast
    field_simp
  rw [hfraction]
  have hcarry : shift = 0 ∨
      (binade : ℚ) ≤ (num * 2 ^ leastExponent : Nat) / (den * 2 ^ shift : Nat) := by
    refine hlow.imp_right fun hlow => ?_
    rw [le_div_iff₀ hpos]
    exact_mod_cast hlow
  have hfits : ((num * 2 ^ leastExponent : Nat) : ℚ) / (den * 2 ^ shift : Nat) < 2 * binade := by
    rw [div_lt_iff₀ hpos]
    exact_mod_cast hhigh
  refine roundsTo_of_near (hcarry.imp_right fun hcarry => ?_) ?_ hcarry habove hbelow htie
  · have h : (binade : ℚ) < significand + 1 := by linarith
    exact Nat.lt_succ_iff.mp (by exact_mod_cast h)
  · have h : (significand : ℚ) < 2 * binade + 1 := by linarith
    exact Nat.lt_succ_iff.mp (by exact_mod_cast h)

theorem nearest?_eq_some_iff {num den : Nat} (hden : 0 < den) {m : Magnitude} :
    nearest? num den = some m ↔ RoundsTo (num / den) m.code := by
  have hrounds := roundsTo_nearestCode num hden
  rw [nearest?_eq_some_iff_code]
  exact ⟨fun h => h ▸ hrounds, hrounds.unique⟩

/-- A fraction that is no larger than a magnitude has a nearest magnitude. -/
theorem exists_nearest? {num den code : Nat} (hden : 0 < den) (hcode : code < 2047 * binade)
    (h : (num : ℚ) / den ≤ value code) : ∃ m, nearest? num den = some m := by
  have hle := (roundsTo_nearestCode num hden).le (roundsTo_value code) h
  exact ⟨⟨nearestCode num den, by omega⟩, nearest?_eq_some_iff_code.mpr rfl⟩

theorem significand_pos {m : Magnitude} (h : m.code ≠ 0) : 0 < m.significand := by
  rw [significand]
  split
  · exact Nat.pos_of_ne_zero h
  · exact Nat.add_pos_left (by decide) _

theorem numerator_pos {m : Magnitude} (h : m.code ≠ 0) : 0 < m.numerator :=
  Nat.mul_pos (significand_pos h) (Nat.two_pow_pos _)

theorem denominator_pos (m : Magnitude) : 0 < m.denominator := Nat.two_pow_pos _

/-- Numerator and denominator of a magnitude are those of its value. -/
theorem numerator_div_denominator (m : Magnitude) :
    (m.numerator : ℚ) / m.denominator = value m.code := by
  have hpower : ∀ a b : Nat, (2 ^ (a - b) : ℚ) / 2 ^ (b - a) = 2 ^ a / 2 ^ b := by
    intro a b
    rw [div_eq_div_iff (by positivity) (by positivity), ← pow_add, ← pow_add]
    congr 1
    omega
  rw [numerator, denominator, value, units, significand, shift]
  simp only [natPow_eq, Nat.cast_mul, Nat.cast_pow, Nat.cast_ofNat]
  rw [mul_div_assoc, hpower, mul_div_assoc]

/-! ### Errors -/

theorem value_add_ulp_le (code : Nat) : value code + ulp code ≤ 2 * binade * ulp code := by
  have h : (units code + step code : ℚ) ≤ 2 * binade * step code := by
    exact_mod_cast units_add_step_le code
  rw [value, ulp, ← add_div, mul_div_assoc']
  gcongr

theorem le_value {code : Nat} (h : binade ≤ code) : binade * ulp code ≤ value code := by
  have h : (binade * step code : ℚ) ≤ units code := by exact_mod_cast le_units h
  rw [value, ulp, mul_div_assoc']
  gcongr

theorem value_zero : value 0 = 0 := by norm_num [value, units, binade]

theorem value_nonneg (code : Nat) : 0 ≤ value code := by
  rw [value]
  positivity

theorem le_value_add (code steps : Nat) : value code + steps * ulp code ≤ value (code + steps) := by
  induction steps with
  | zero => simp
  | succ steps ih =>
      have hmono := ulp_mono (Nat.le_add_right code steps)
      rw [← Nat.add_assoc, value_succ]
      push_cast
      linarith

theorem le_midpoint_add (code steps : Nat) :
    midpoint code + steps * ulp code ≤ midpoint (code + steps) := by
  have hvalue := le_value_add code steps
  have hmono := ulp_mono (Nat.le_add_right code steps)
  rw [midpoint_eq, midpoint_eq]
  linarith

/-- Two magnitudes are so many steps apart at most. -/
structure Apart (steps : Nat) (m m' : Magnitude) : Prop where
  below : m.code ≤ m'.code + steps
  above : m'.code ≤ m.code + steps

/-- Two numbers differ by one part in so many at most. -/
structure Close (parts x y : ℚ) : Prop where
  left : parts * x ≤ (parts + 1) * y
  right : parts * y ≤ (parts + 1) * x

namespace RoundsTo

variable {q q' : ℚ} {code code' : Nat}

/-- Above the subnormal magnitudes a number and the magnitude it rounds to differ by one part in
`2 ^ 53` at most. -/
theorem close (h : RoundsTo q code) (hq : value binade ≤ q) : Close (2 * binade) q (value code) := by
  have hcode : binade ≤ code := (roundsTo_value binade).le h hq
  constructor
  · have hupper := h.upper
    have hvalue := le_value hcode
    rw [midpoint_eq] at hupper
    have hscaled := mul_le_mul_of_nonneg_left hupper (show (0 : ℚ) ≤ 2 * binade by positivity)
    linarith
  · rcases Nat.eq_or_lt_of_le hcode with rfl | hlt
    · have : (0 : ℚ) ≤ q := le_trans (value_nonneg _) hq
      have hscaled := mul_le_mul_of_nonneg_left hq (show (0 : ℚ) ≤ 2 * binade by positivity)
      linarith
    · obtain ⟨below, rfl⟩ : ∃ below, code = below + 1 := ⟨code - 1, by omega⟩
      have hlower := h.lower below rfl
      have hvalue := le_value (Nat.le_of_lt_succ hlt)
      have hulp := ulp_pos below
      rw [midpoint_eq] at hlower
      rw [value_succ]
      have hscaled := mul_le_mul_of_nonneg_left hlower
        (show (0 : ℚ) ≤ 2 * binade + 1 by positivity)
      linarith

/-- A number that rounds to a magnitude has less than `2 ^ 53` of its steps. -/
theorem add_ulp_le (h : RoundsTo q code) : q + ulp code / 2 ≤ 2 * binade * ulp code := by
  have hupper := h.upper
  have hvalue := value_add_ulp_le code
  rw [midpoint_eq] at hupper
  linarith

/-- A number rounds to a magnitude at most so many steps above another if it exceeds what rounds
there by less than so many steps. -/
theorem le_add {steps : Nat} (h : RoundsTo q code) (h' : RoundsTo q' code')
    (hq : q' < q + steps * ulp code) : code' ≤ code + steps := by
  by_contra hlt
  obtain ⟨below, rfl⟩ : ∃ below, code' = below + 1 := ⟨code' - 1, by omega⟩
  have hmid : midpoint (code + steps) ≤ midpoint below :=
    midpoint_strictMono.monotone (by omega)
  have hlower := h'.lower below rfl
  have hupper := h.upper
  have hsteps := le_midpoint_add code steps
  linarith

/-- The same for a number that exceeds the other by a factor. -/
theorem le_add_of_factor {a a' : ℚ} {steps : Nat} (h : RoundsTo q code) (h' : RoundsTo q' code')
    (ha : 0 < a) (haa' : a ≤ a') (hq : a * q' ≤ a' * q)
    (hsteps : (a' - a) * (2 * binade - 1 / 2) < steps * a) : code' ≤ code + steps := by
  have hulp := ulp_pos code
  have hsize := h.add_ulp_le
  have hexcess : (a' - a) * q ≤ (a' - a) * ((2 * binade - 1 / 2) * ulp code) :=
    mul_le_mul_of_nonneg_left (by linarith) (by linarith)
  have hroom := mul_lt_mul_of_pos_right hsteps hulp
  refine h.le_add h' (lt_of_mul_lt_mul_left ?_ ha.le)
  linarith

end RoundsTo

end HttpGet.Magnitude
