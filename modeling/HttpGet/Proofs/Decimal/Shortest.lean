/-
Shortest decimals.

The decimals that are tried for a magnitude lie on one grid after the other, each ten times as
fine as the one before.  A grid has a number that rounds to the magnitude exactly if one of the
two neighbours of the magnitude on it does, because what rounds to a magnitude is an interval
around it; and a grid finer than the step below the magnitude always has one.  So the search
finds a decimal, of seventeen digits at most, and what it finds rounds to the magnitude.
-/
import HttpGet.Decimal.Shortest
import HttpGet.Proofs.Decimal.Rounding

namespace HttpGet

namespace Decimal

/-- The power of ten that the digits of a decimal are scaled by. -/
def scale (d : Decimal) : Int := d.point - (Nat.toDigits 10 d.digits).length

/-- The number that a decimal spells. -/
def value (d : Decimal) : ℚ := d.digits * 10 ^ d.scale

end Decimal

namespace Magnitude

/-! ### Powers of ten -/

theorem ten_zpow_eq (scale : Int) :
    (10 : ℚ) ^ scale = (10 ^ scale.toNat : Nat) / (10 ^ (-scale).toNat : Nat) := by
  rcases le_total 0 scale with h | h
  · obtain ⟨n, rfl⟩ := Int.eq_ofNat_of_zero_le h
    simp
  · obtain ⟨n, hn⟩ := Int.eq_ofNat_of_zero_le (Int.neg_nonneg_of_nonpos h)
    obtain rfl : scale = -(n : Int) := by omega
    simp

theorem ten_zpow_le {a b : Int} (h : a ≤ b) : (10 : ℚ) ^ a ≤ 10 ^ b :=
  zpow_le_zpow_right₀ (by norm_num) h

theorem ten_zpow_lt_iff {a b : Int} : (10 : ℚ) ^ a < 10 ^ b ↔ a < b :=
  zpow_lt_zpow_iff_right₀ (by norm_num)

theorem ten_zpow_sub_natCast (point : Int) (count : Nat) :
    (10 : ℚ) ^ (point - count) * 10 ^ count = 10 ^ point := by
  rw [← zpow_natCast, ← zpow_add₀ (by norm_num)]
  congr 1
  omega

/-- A number has as many digits as the power of ten above it has zeros. -/
theorem length_toDigits_bounds {n : Nat} (hn : 0 < n) :
    10 ^ ((Nat.toDigits 10 n).length - 1) ≤ n ∧ n < 10 ^ (Nat.toDigits 10 n).length := by
  have hpos : 0 < (Nat.toDigits 10 n).length := Nat.length_toDigits_pos
  refine ⟨?_, (Nat.length_toDigits_le_iff (by decide) hpos).mp le_rfl⟩
  by_cases hone : (Nat.toDigits 10 n).length = 1
  · rw [hone]
    exact hn
  · have hshorter : ¬ (Nat.toDigits 10 n).length ≤ (Nat.toDigits 10 n).length - 1 := by omega
    rwa [Nat.length_toDigits_le_iff (by decide) (by omega), Nat.not_lt] at hshorter

theorem length_toDigits_eq {n count : Nat} (hlow : 10 ^ count ≤ n) (hhigh : n < 10 ^ (count + 1)) :
    (Nat.toDigits 10 n).length = count + 1 := by
  have hle : (Nat.toDigits 10 n).length ≤ count + 1 :=
    (Nat.length_toDigits_le_iff (by decide) (by omega)).mpr hhigh
  have hlt := (length_toDigits_bounds (Nat.lt_of_lt_of_le (by positivity) hlow)).2
  have := (Nat.pow_lt_pow_iff_right (by decide)).mp (Nat.lt_of_le_of_lt hlow hlt)
  omega

/-- Scaled digits lie between the two powers of ten that their number says. -/
theorem digits_mul_bounds {n : Nat} (hn : 0 < n) (scale : Int) :
    (10 : ℚ) ^ (scale + (Nat.toDigits 10 n).length - 1) ≤ n * 10 ^ scale ∧
      n * 10 ^ scale < (10 : ℚ) ^ (scale + (Nat.toDigits 10 n).length) := by
  obtain ⟨hlow, hhigh⟩ := length_toDigits_bounds hn
  obtain ⟨count, hcount⟩ : ∃ count, (Nat.toDigits 10 n).length = count + 1 :=
    Nat.exists_eq_add_one.mpr Nat.length_toDigits_pos
  have hscale : (0 : ℚ) < 10 ^ scale := by positivity
  rw [hcount, Nat.add_sub_cancel] at hlow
  rw [hcount] at hhigh ⊢
  have hlow' : (10 : ℚ) ^ count ≤ n := by exact_mod_cast hlow
  have hhigh' : (n : ℚ) < 10 ^ (count + 1) := by exact_mod_cast hhigh
  constructor
  · rw [show scale + (count + 1 : Nat) - 1 = count + scale by omega, zpow_add₀ (by norm_num),
      zpow_natCast]
    gcongr
  · rw [add_comm, zpow_add₀ (by norm_num), zpow_natCast]
    gcongr

/-- The decimal point stands between the two powers of ten around a fraction. -/
theorem decimalPoint_bounds {num den : Nat} (hnum : 0 < num) (hden : 0 < den) :
    (10 : ℚ) ^ (decimalPoint num den - 1) ≤ num / den ∧
      (num : ℚ) / den < 10 ^ decimalPoint num den := by
  have hdenPos : (0 : ℚ) < den := by exact_mod_cast hden
  rw [decimalPoint]
  by_cases hle : den ≤ num
  · rw [if_pos hle]
    have hpos : 0 < num / den := Nat.div_pos hle hden
    obtain ⟨hlow, hhigh⟩ := length_toDigits_bounds hpos
    obtain ⟨count, hcount⟩ : ∃ count, (Nat.toDigits 10 (num / den)).length = count + 1 :=
      Nat.exists_eq_add_one.mpr Nat.length_toDigits_pos
    rw [hcount, Nat.add_sub_cancel, Nat.le_div_iff_mul_le hden] at hlow
    rw [hcount, Nat.div_lt_iff_lt_mul hden] at hhigh
    rw [hcount, Nat.cast_succ, add_sub_cancel_right, ← Nat.cast_succ, zpow_natCast, zpow_natCast,
      le_div_iff₀ hdenPos, div_lt_iff₀ hdenPos]
    exact ⟨by exact_mod_cast hlow, by exact_mod_cast hhigh⟩
  · rw [if_neg hle]
    have hnumPos : (0 : ℚ) < num := by exact_mod_cast hnum
    generalize hceil : (den + num - 1) / num - 1 = below
    -- `below` is the largest integer less than the inverse of the fraction
    have htwo : 2 ≤ (den + num - 1) / num := (Nat.le_div_iff_mul_le hnum).mpr (by omega)
    have hbelow : below * num < den := by
      have := Nat.div_mul_le_self (den + num - 1) num
      rw [show (den + num - 1) / num = below + 1 by omega, Nat.succ_mul] at this
      omega
    have habove : den ≤ (below + 1) * num := by
      have := Nat.lt_mul_of_div_lt (Nat.lt_succ_self ((den + num - 1) / num)) hnum
      rw [show (den + num - 1) / num = below + 1 by omega] at this
      rw [Nat.succ_mul (below + 1)] at this
      omega
    obtain ⟨hlow, hhigh⟩ := length_toDigits_bounds (show 0 < below by omega)
    obtain ⟨count, hcount⟩ : ∃ count, (Nat.toDigits 10 below).length = count + 1 :=
      Nat.exists_eq_add_one.mpr Nat.length_toDigits_pos
    rw [hcount, Nat.add_sub_cancel] at hlow
    rw [hcount] at hhigh ⊢
    have hpoint : (1 : Int) - (count + 1 : Nat) = -(count : Int) := by omega
    have hpoint' : (1 : Int) - (count + 1 : Nat) - 1 = -((count + 1 : Nat) : Int) := by omega
    rw [hpoint', hpoint, zpow_neg, zpow_neg, zpow_natCast, zpow_natCast]
    rw [inv_le_comm₀ (by positivity) (by positivity), lt_inv_comm₀ (by positivity) (by positivity),
      inv_div, div_le_iff₀ hnumPos, lt_div_iff₀ hnumPos]
    constructor
    · exact_mod_cast habove.trans (Nat.mul_le_mul_right _ hhigh)
    · exact_mod_cast (Nat.mul_le_mul_right _ hlow).trans_lt hbelow

/-! ### What rounds to a magnitude -/

/-- The lower end of the interval is half the step below the magnitude away. -/
theorem lowerQuarters_mul_step {m : Magnitude} {below : Nat} (h : m.code = below + 1) :
    m.lowerQuarters * step m.code = 2 * step below := by
  rw [lowerQuarters, step, step, h]
  split
  · rename_i hleast
    simp only [Bool.and_eq_true, decide_eq_true_eq] at hleast
    have hdiv : (below + 1) / binade - 1 = below / binade - 1 + 1 := by
      simp only [binade] at *
      omega
    rw [hdiv, pow_succ]
    ring
  · rename_i hother
    simp only [Bool.and_eq_true, decide_eq_true_eq, not_and] at hother
    have hdiv : (below + 1) / binade - 1 = below / binade - 1 := by
      simp only [binade] at *
      omega
    rw [hdiv]

theorem significand_mod_two (m : Magnitude) : m.significand % 2 = m.code % 2 := by
  rw [significand]
  split
  · rfl
  · simp only [binade]
    omega

theorem lowerQuarters_le {m : Magnitude} (h : m.code ≠ 0) : m.lowerQuarters ≤ 4 * m.significand := by
  have hsignificand := significand_pos h
  have hquarters : m.lowerQuarters ≤ 2 := by
    rw [lowerQuarters]
    split <;> decide
  omega

/-- The lower end of the interval, in quarters of least units. -/
theorem midpoint_below_eq {m : Magnitude} {below : Nat} (h : m.code = below + 1) :
    midpoint below =
      ((4 * m.significand - m.lowerQuarters) * 2 ^ m.shift : Nat) / (4 * 2 ^ leastExponent : Nat) := by
  have hquarters : (m.lowerQuarters * 2 ^ m.shift : ℚ) = 2 * step below := by
    exact_mod_cast lowerQuarters_mul_step h
  have hvalue : value m.code = (m.significand * 2 ^ m.shift : Nat) / 2 ^ leastExponent := rfl
  have hle := lowerQuarters_le (m := m) (by omega)
  rw [midpoint_eq_succ, ← h, hvalue, ulp, Nat.cast_mul (4 * m.significand - m.lowerQuarters),
    Nat.cast_sub hle]
  push_cast
  field_simp
  linarith

/-- The upper end of the interval, in quarters of least units. -/
theorem midpoint_code_eq (m : Magnitude) :
    midpoint m.code = ((4 * m.significand + 2) * 2 ^ m.shift : Nat) / (4 * 2 ^ leastExponent : Nat) := by
  have hvalue : value m.code = (m.significand * 2 ^ m.shift : Nat) / 2 ^ leastExponent := rfl
  have hulp : ulp m.code = (2 ^ m.shift : Nat) / 2 ^ leastExponent := rfl
  rw [midpoint_eq, hvalue, hulp]
  push_cast
  field_simp
  ring

/-- The bounds that a decimal is compared with are the ends of the interval. -/
theorem covers_iff {m : Magnitude} (h : m.code ≠ 0) (digits : Nat) (scale : Int) :
    m.covers digits scale = true ↔ RoundsTo (digits * 10 ^ scale) m.code := by
  obtain ⟨below, hbelow⟩ := Nat.exists_eq_succ_of_ne_zero h
  have hlow := midpoint_below_eq hbelow
  have hhigh := midpoint_code_eq m
  have hdecimal : (digits : ℚ) * 10 ^ scale =
      (digits * 10 ^ scale.toNat : Nat) / (10 ^ (-scale).toNat : Nat) := by
    rw [ten_zpow_eq]
    push_cast
    ring
  have hleast : (0 : ℚ) < (4 * 2 ^ leastExponent : Nat) := by positivity
  have hdown : (0 : ℚ) < (10 ^ (-scale).toNat : Nat) := by positivity
  rw [← natPow_eq 2 leastExponent] at hlow hhigh hleast
  rw [covers]
  generalize Nat.pow 2 leastExponent = least at *
  simp only [natPow_eq]
  generalize (4 * m.significand - m.lowerQuarters) * 2 ^ m.shift = low at *
  generalize (4 * m.significand + 2) * 2 ^ m.shift = high at *
  have hscaled : 4 * digits * 10 ^ scale.toNat * least =
      digits * 10 ^ scale.toNat * (4 * least) := by ring
  have hbelowLe : midpoint below ≤ digits * 10 ^ scale ↔
      low * 10 ^ (-scale).toNat ≤ 4 * digits * 10 ^ scale.toNat * least := by
    rw [hlow, hdecimal, div_le_div_iff₀ hleast hdown, hscaled]
    exact_mod_cast Iff.rfl
  have hbelowLt : midpoint below < digits * 10 ^ scale ↔
      low * 10 ^ (-scale).toNat < 4 * digits * 10 ^ scale.toNat * least := by
    rw [hlow, hdecimal, div_lt_div_iff₀ hleast hdown, hscaled]
    exact_mod_cast Iff.rfl
  have haboveLe : digits * 10 ^ scale ≤ midpoint m.code ↔
      4 * digits * 10 ^ scale.toNat * least ≤ high * 10 ^ (-scale).toNat := by
    rw [hhigh, hdecimal, div_le_div_iff₀ hdown hleast, hscaled]
    exact_mod_cast Iff.rfl
  have haboveLt : digits * 10 ^ scale < midpoint m.code ↔
      4 * digits * 10 ^ scale.toNat * least < high * 10 ^ (-scale).toNat := by
    rw [hhigh, hdecimal, div_lt_div_iff₀ hdown hleast, hscaled]
    exact_mod_cast Iff.rfl
  rw [significand_mod_two, hbelow, Nat.succ_eq_add_one, roundsTo_succ_iff, ← Nat.succ_eq_add_one,
    ← hbelow, hbelowLe, hbelowLt, haboveLe, haboveLt]
  split <;> rw [Bool.and_eq_true, decide_eq_true_eq, decide_eq_true_eq]

/-! ### Grids -/

/-- The last number of a grid that is not above a magnitude. -/
def gridFloor (m : Magnitude) (scale : Int) : Nat :=
  m.numerator * 10 ^ (-scale).toNat / (m.denominator * 10 ^ scale.toNat)

theorem gridFloor_bounds (m : Magnitude) (scale : Int) :
    (gridFloor m scale : ℚ) * 10 ^ scale ≤ value m.code ∧
      value m.code < (gridFloor m scale + 1) * 10 ^ scale := by
  have hdenominator := m.denominator_pos
  have hup : 0 < 10 ^ scale.toNat := by positivity
  have hdown : (0 : ℚ) < (10 ^ (-scale).toNat : Nat) := by positivity
  have hden : (0 : ℚ) < m.denominator := by exact_mod_cast hdenominator
  have hlow := Nat.div_mul_le_self (m.numerator * 10 ^ (-scale).toNat)
    (m.denominator * 10 ^ scale.toNat)
  have hhigh := Nat.lt_mul_of_div_lt
    (Nat.lt_succ_self (m.numerator * 10 ^ (-scale).toNat / (m.denominator * 10 ^ scale.toNat)))
    (Nat.mul_pos hdenominator hup)
  rw [← numerator_div_denominator, ten_zpow_eq, gridFloor]
  generalize m.numerator * 10 ^ (-scale).toNat / (m.denominator * 10 ^ scale.toNat) = floor at *
  rw [mul_div_assoc', mul_div_assoc', div_le_div_iff₀ hdown hden, div_lt_div_iff₀ hden hdown]
  constructor
  · calc (floor * (10 ^ scale.toNat : Nat) * m.denominator : ℚ)
        = (floor * (m.denominator * 10 ^ scale.toNat) : Nat) := by
          push_cast
          ring
      _ ≤ (m.numerator * 10 ^ (-scale).toNat : Nat) := by exact_mod_cast hlow
      _ = m.numerator * (10 ^ (-scale).toNat : Nat) := by push_cast; rfl
  · calc (m.numerator * (10 ^ (-scale).toNat : Nat) : ℚ)
        = (m.numerator * 10 ^ (-scale).toNat : Nat) := by push_cast; rfl
      _ < (floor.succ * (m.denominator * 10 ^ scale.toNat) : Nat) := by exact_mod_cast hhigh
      _ = (floor + 1) * (10 ^ scale.toNat : Nat) * m.denominator := by
          push_cast
          ring

variable {m : Magnitude} {tie : Tie} {scale point : Int} {digits : Nat}

/-- Both neighbours of the magnitude are tried, in one order or the other. -/
theorem onGrid?_eq (m : Magnitude) (tie : Tie) (scale : Int) :
    ∃ first second,
      (first = gridFloor m scale ∧ second = gridFloor m scale + 1 ∨
        first = gridFloor m scale + 1 ∧ second = gridFloor m scale) ∧
      m.onGrid? tie scale =
        if m.covers first scale then some first
        else if m.covers second scale then some second else none := by
  have hfloor : m.numerator * Nat.pow 10 (-scale).toNat / (m.denominator * Nat.pow 10 scale.toNat) =
      gridFloor m scale := rfl
  have hnear : ∀ num den, roundedQuotient tie num den = num / den ∨
      roundedQuotient tie num den = num / den + 1 := by
    intro num den
    rw [roundedQuotient]
    split
    · exact Or.inr rfl
    · exact Or.inl rfl
  rcases hnear (m.numerator * Nat.pow 10 (-scale).toNat)
    (m.denominator * Nat.pow 10 scale.toNat) with hnear | hnear
  · refine ⟨gridFloor m scale, gridFloor m scale + 1, Or.inl ⟨rfl, rfl⟩, ?_⟩
    simp only [onGrid?, hnear, hfloor, if_true]
  · refine ⟨gridFloor m scale + 1, gridFloor m scale, Or.inr ⟨rfl, rfl⟩, ?_⟩
    simp only [onGrid?, hnear, hfloor, if_neg (Nat.succ_ne_self _)]

/-- A grid is a hit at one of the two neighbours of the magnitude. -/
theorem onGrid?_eq_some (h : m.code ≠ 0) (hd : m.onGrid? tie scale = some digits) :
    RoundsTo (digits * 10 ^ scale) m.code ∧
      (digits = gridFloor m scale ∨ digits = gridFloor m scale + 1) := by
  obtain ⟨first, second, horder, heq⟩ := onGrid?_eq m tie scale
  rw [heq] at hd
  rw [← covers_iff h]
  split at hd
  · rename_i hcovers
    obtain rfl := Option.some.inj hd
    exact ⟨hcovers, by omega⟩
  · split at hd
    · rename_i hcovers
      obtain rfl := Option.some.inj hd
      exact ⟨hcovers, by omega⟩
    · simp at hd

/-- A grid without a hit has no number that rounds to the magnitude. -/
theorem not_roundsTo_of_onGrid? (h : m.code ≠ 0) (hnone : m.onGrid? tie scale = none)
    (digits : Nat) : ¬ RoundsTo (digits * 10 ^ scale) m.code := by
  intro hdigits
  obtain ⟨hbelow, habove⟩ := gridFloor_bounds m scale
  have hvalue := roundsTo_value m.code
  have hpos : (0 : ℚ) < 10 ^ scale := by positivity
  -- what rounds to the magnitude on one side of it has the neighbour on that side in between
  have hneighbour : m.covers (gridFloor m scale) scale = true ∨
      m.covers (gridFloor m scale + 1) scale = true := by
    rw [covers_iff h, covers_iff h]
    by_cases hle : digits ≤ gridFloor m scale
    · have hcast : (digits : ℚ) ≤ gridFloor m scale := by exact_mod_cast hle
      exact Or.inl (hdigits.between hvalue (by gcongr) hbelow)
    · have hcast : ((gridFloor m scale + 1 : Nat) : ℚ) ≤ digits := by
        exact_mod_cast Nat.lt_of_not_le hle
      refine Or.inr (hvalue.between hdigits ?_ (by gcongr))
      push_cast
      exact habove.le
  obtain ⟨first, second, horder, heq⟩ := onGrid?_eq m tie scale
  rw [heq] at hnone
  split at hnone
  · simp at hnone
  · split at hnone
    · simp at hnone
    · rename_i hfirst hsecond
      rcases horder with ⟨rfl, rfl⟩ | ⟨rfl, rfl⟩
      · exact hneighbour.elim hfirst hsecond
      · exact hneighbour.elim hsecond hfirst

/-- A grid that is finer than the step below the magnitude has a hit. -/
theorem exists_onGrid? {below : Nat} (h : m.code = below + 1) (hfine : (10 : ℚ) ^ scale < ulp below) :
    ∃ digits, m.onGrid? tie scale = some digits := by
  rw [← Option.isSome_iff_exists, Option.isSome_iff_ne_none]
  intro hnone
  obtain ⟨hbelow, habove⟩ := gridFloor_bounds m scale
  have hmiss := not_roundsTo_of_onGrid? (by omega) hnone
  rw [h] at hmiss hbelow habove
  by_cases hnear : value (below + 1) ≤ gridFloor m scale * 10 ^ scale + 10 ^ scale / 2
  · exact hmiss (gridFloor m scale) (roundsTo_of_close (by linarith) (by linarith))
  · refine hmiss (gridFloor m scale + 1) (roundsTo_of_close ?_ ?_)
    · push_cast
      linarith
    · push_cast
      linarith

/-! ### The search -/

/-- The search ends on the first grid with a hit, if there is one. -/
theorem search_eq {grids count : Nat}
    (hlast : ∃ digits, m.onGrid? tie (point - (count + grids : Nat)) = some digits) :
    ∃ found digits, count ≤ found ∧ found ≤ count + grids ∧
      m.onGrid? tie (point - found) = some digits ∧
      m.search tie point grids count = ⟨digits, point⟩ ∧
      ∀ before, count ≤ before → before < found → m.onGrid? tie (point - before) = none := by
  induction grids generalizing count with
  | zero =>
      obtain ⟨digits, hdigits⟩ := hlast
      refine ⟨count, digits, le_rfl, le_rfl, hdigits, ?_, fun before _ _ => by omega⟩
      rw [Nat.add_zero] at hdigits
      rw [search, hdigits]
      rfl
  | succ grids ih =>
      cases hgrid : m.onGrid? tie (point - count) with
      | some digits =>
          refine ⟨count, digits, le_rfl, by omega, hgrid, ?_, fun before _ _ => by omega⟩
          rw [search, hgrid]
      | none =>
          rw [show count + (grids + 1) = count + 1 + grids by omega] at hlast
          obtain ⟨found, digits, hle, hge, hfound, hsearch, hbefore⟩ := ih hlast
          refine ⟨found, digits, by omega, by omega, hfound, ?_, fun before hb hlt => ?_⟩
          · rw [search, hgrid]
            exact hsearch
          · rcases Nat.eq_or_lt_of_le hb with rfl | hb
            · exact hgrid
            · exact hbefore before hb hlt

/-- On a grid of so many digits the neighbours of the magnitude have so many digits, or the one
above is the power of ten. -/
theorem onGrid?_digits_bounds (h : m.code ≠ 0) {count : Nat}
    (hlow : (10 : ℚ) ^ (point - 1) ≤ value m.code) (hhigh : value m.code < (10 : ℚ) ^ point)
    (hd : m.onGrid? tie (point - (count + 1 : Nat)) = some digits) :
    10 ^ count ≤ digits ∧ digits ≤ 10 ^ (count + 1) := by
  obtain ⟨hbelow, habove⟩ := gridFloor_bounds m (point - (count + 1 : Nat))
  have hnear := (onGrid?_eq_some h hd).2
  have hpos : (0 : ℚ) < 10 ^ (point - (count + 1 : Nat)) := by positivity
  have hpoint := ten_zpow_sub_natCast point (count + 1)
  have hfirst : (10 : ℚ) ^ (point - (count + 1 : Nat)) * 10 ^ count = 10 ^ (point - 1) := by
    rw [← ten_zpow_sub_natCast (point - 1) count]
    congr 2
    omega
  generalize gridFloor m (point - (count + 1 : Nat)) = floor at *
  generalize (10 : ℚ) ^ (point - (count + 1 : Nat)) = unit at *
  have hfloorLow : (10 ^ count : Nat) < floor + 1 := by
    have : unit * 10 ^ count < unit * (floor + 1) := by linarith
    exact_mod_cast lt_of_mul_lt_mul_left this hpos.le
  have hfloorHigh : floor < 10 ^ (count + 1) := by
    have : unit * floor < unit * 10 ^ (count + 1) := by linarith
    exact_mod_cast lt_of_mul_lt_mul_left this hpos.le
  omega

theorem inv_two_pow_le_ulp (code : Nat) : 1 / 2 ^ leastExponent ≤ ulp code := by
  have hstep : (1 : ℚ) ≤ step code := by exact_mod_cast step_pos code
  rw [ulp]
  gcongr

/-- The grid of the least power of ten that is used is finer than all steps. -/
theorem ten_zpow_lt_ulp (h : scale ≤ -324) (code : Nat) : (10 : ℚ) ^ scale < ulp code := by
  have hpowers : (2 : ℚ) ^ leastExponent < 10 ^ 324 := by
    exact_mod_cast (by decide +kernel : 2 ^ leastExponent < 10 ^ 324)
  calc (10 : ℚ) ^ scale ≤ 10 ^ (-(324 : Nat) : Int) := ten_zpow_le h
    _ = 1 / 10 ^ 324 := by rw [zpow_neg, zpow_natCast, one_div]
    _ < 1 / 2 ^ leastExponent := one_div_lt_one_div_of_lt (by positivity) hpowers
    _ ≤ ulp code := inv_two_pow_le_ulp code

/-- Seventeen digits are enough for each magnitude. -/
theorem ten_zpow_sub_seventeen_lt_ulp {below : Nat} (h : (10 : ℚ) ^ (point - 1) ≤ value (below + 1)) :
    (10 : ℚ) ^ (point - (17 : Nat)) < ulp below := by
  have hpoint := ten_zpow_sub_natCast (point - 1) 16
  rw [show point - 1 - ((16 : Nat) : Int) = point - (17 : Nat) by omega] at hpoint
  have hvalue := value_add_ulp_le below
  rw [← value_succ] at hvalue
  have hulp := ulp_pos below
  have hbinade : (2 * binade : ℚ) * ulp below < 10 ^ 16 * ulp below := by
    have : (2 * binade : ℚ) < 10 ^ 16 := by norm_num [binade]
    gcongr
  linarith

/-- What the search finds: the hit on a grid of `count + 1` digits, where no coarser grid has one. -/
structure Found (m : Magnitude) (d : Decimal) (count : Nat) : Prop where
  point_eq : d.point = decimalPoint m.numerator m.denominator
  count_le : count ≤ 16
  digits_ge : 10 ^ count ≤ d.digits
  digits_le : d.digits ≤ 10 ^ (count + 1)
  roundsTo : RoundsTo (d.digits * 10 ^ (d.point - (count + 1 : Nat))) m.code
  coarser : ∀ other, 0 < other → other ≤ count → ∀ digits : Nat,
    ¬ RoundsTo (digits * 10 ^ (d.point - other)) m.code

theorem value_bounds (h : m.code ≠ 0) :
    (10 : ℚ) ^ (decimalPoint m.numerator m.denominator - 1) ≤ value m.code ∧
      value m.code < (10 : ℚ) ^ decimalPoint m.numerator m.denominator := by
  rw [← numerator_div_denominator]
  exact decimalPoint_bounds (numerator_pos h) m.denominator_pos

theorem search_found (tie : Tie) (h : m.code ≠ 0) :
    ∃ count, Found m (m.search tie (decimalPoint m.numerator m.denominator) 16 1) count := by
  obtain ⟨below, hbelow⟩ := Nat.exists_eq_add_one_of_ne_zero h
  obtain ⟨hlow, hhigh⟩ := value_bounds h
  generalize hpoint : decimalPoint m.numerator m.denominator = point at *
  obtain ⟨found, digits, hpos, hle, hgrid, hsearch, hbefore⟩ := @search_eq m tie point 16 1
    (exists_onGrid? hbelow (ten_zpow_sub_seventeen_lt_ulp (hbelow ▸ hlow)))
  obtain ⟨count, rfl⟩ : ∃ count, found = count + 1 := ⟨found - 1, by omega⟩
  obtain ⟨hmin, hmax⟩ := onGrid?_digits_bounds h hlow hhigh hgrid
  rw [hsearch]
  exact ⟨count, {
    point_eq := hpoint.symm
    count_le := by omega
    digits_ge := hmin
    digits_le := hmax
    roundsTo := (onGrid?_eq_some h hgrid).1
    coarser := fun other hother hle =>
      not_roundsTo_of_onGrid? h (hbefore other hother (Nat.lt_succ_of_le hle)) }⟩

namespace Found

variable {d : Decimal} {count : Nat}

/-- A hit that ends in a zero would have been one on the grid before. -/
theorem lastDigit (h : Found m d count) (hcount : count ≠ 0) : d.digits % 10 ≠ 0 := by
  intro hzero
  have hrounds := h.roundsTo
  refine h.coarser count (Nat.pos_of_ne_zero hcount) le_rfl (d.digits / 10) ?_
  have hcoarser : (10 : ℚ) ^ (d.point - count) = 10 * 10 ^ (d.point - (count + 1 : Nat)) := by
    rw [← zpow_one_add₀ (by norm_num)]
    congr 1
    omega
  have hdigits : (d.digits : ℚ) = (d.digits / 10 : Nat) * 10 := by
    exact_mod_cast (Nat.div_mul_cancel (Nat.dvd_of_mod_eq_zero hzero)).symm
  rwa [hcoarser, ← mul_assoc, ← hdigits]

/-- The grid before would have been a hit if it were finer than all steps. -/
theorem scale_ge (h : Found m d count) (hm : m.code ≠ 0) :
    -324 ≤ d.point - (count + 1 : Nat) := by
  obtain ⟨below, hbelow⟩ := Nat.exists_eq_add_one_of_ne_zero hm
  by_contra hlt
  have hfine : (10 : ℚ) ^ (d.point - count) < ulp below := ten_zpow_lt_ulp (by omega) below
  cases count with
  | zero =>
      have hhigh := (value_bounds hm).2
      have hnonneg := value_nonneg below
      rw [Nat.cast_zero, sub_zero] at hfine
      rw [← h.point_eq, hbelow, value_succ] at hhigh
      linarith
  | succ count =>
      obtain ⟨digits, hhit⟩ : ∃ digits, m.onGrid? .even _ = some digits := exists_onGrid? hbelow hfine
      exact h.coarser (count + 1) (Nat.succ_pos count) le_rfl digits (onGrid?_eq_some hm hhit).1

/-- A decimal with fewer digits does not round to the magnitude: it is on a coarser grid, or a
power of ten lies between it and the magnitude. -/
theorem lt_length (h : Found m d count) (hm : m.code ≠ 0) {digits : Nat} {scale : Int}
    (hrounds : RoundsTo (digits * 10 ^ scale) m.code) : count < (Nat.toDigits 10 digits).length := by
  obtain ⟨hlow, hhigh⟩ := value_bounds hm
  rw [← h.point_eq] at hlow hhigh
  have hvalue := roundsTo_value m.code
  have hpos : 0 < (Nat.toDigits 10 digits).length := Nat.length_toDigits_pos
  by_contra hle
  rcases lt_or_ge ((digits : ℚ) * 10 ^ scale) ((10 : ℚ) ^ (d.point - 1)) with hbelow | habove
  · refine h.coarser 1 Nat.one_pos (by omega) 1 ?_
    rw [Nat.cast_one, one_mul]
    exact hrounds.between hvalue hbelow.le hlow
  rcases lt_or_ge ((digits : ℚ) * 10 ^ scale) ((10 : ℚ) ^ d.point) with hbelow | hbeyond
  · obtain rfl : scale = d.point - (Nat.toDigits 10 digits).length := by
      have hdigits : 0 < digits := by
        refine Nat.pos_of_ne_zero fun hzero => absurd habove (not_le.mpr ?_)
        rw [hzero, Nat.cast_zero, zero_mul]
        positivity
      obtain ⟨hleast, hgreatest⟩ := digits_mul_bounds hdigits scale
      have hlower := ten_zpow_lt_iff.mp (hleast.trans_lt hbelow)
      have hupper := ten_zpow_lt_iff.mp (habove.trans_lt hgreatest)
      omega
    exact h.coarser _ hpos (by omega) digits hrounds
  · refine h.coarser 1 Nat.one_pos (by omega) 10 ?_
    rw [Nat.cast_one, Nat.cast_ofNat, ← zpow_one_add₀ (by norm_num), add_sub_cancel]
    exact hvalue.between hrounds hhigh.le hbeyond

end Found

/-- What can be relied on of the decimal of a magnitude. -/
structure Faithful (m : Magnitude) (d : Decimal) : Prop where
  digits_pos : 0 < d.digits
  digits_lt : d.digits < 10 ^ 17
  scale_ge : -324 ≤ d.scale
  roundsTo : RoundsTo d.value m.code
  shortest : ∀ (digits : Nat) (scale : Int), RoundsTo (digits * 10 ^ scale) m.code →
    (Nat.toDigits 10 d.digits).length ≤ (Nat.toDigits 10 digits).length

/-- **The shortest decimal of a magnitude other than zero has at most seventeen digits, it rounds
to the magnitude, and no decimal of fewer digits does.** -/
theorem shortest_faithful (tie : Tie) (h : m.code ≠ 0) : Faithful m (m.shortest tie) := by
  obtain ⟨count, hfound⟩ := search_found tie h
  have hscale := hfound.scale_ge h
  have hrounds := hfound.roundsTo
  have hcount := hfound.count_le
  have hpoint := hfound.point_eq
  rw [shortest, if_neg h]
  dsimp only
  generalize m.search tie (decimalPoint m.numerator m.denominator) 16 1 = d at *
  rw [← hpoint]
  split
  · rename_i hzero
    obtain rfl : count = 0 := by_contra fun hcount => hfound.lastDigit hcount hzero
    have hdigits : d.digits = 10 := by
      have hmin := hfound.digits_ge
      have hmax := hfound.digits_le
      omega
    have hone : (Nat.toDigits 10 1).length = 1 := length_toDigits_eq le_rfl (by decide)
    have hscale' : Decimal.scale ⟨1, d.point + 1⟩ = d.point := by
      rw [Decimal.scale, hone, Nat.cast_one, add_sub_cancel_right]
    have hvalue : Decimal.value ⟨1, d.point + 1⟩ = d.digits * 10 ^ (d.point - (0 + 1 : Nat)) := by
      rw [Decimal.value, hscale', hdigits, Nat.cast_one, one_mul, Nat.cast_ofNat,
        ← zpow_one_add₀ (by norm_num)]
      congr 1
      omega
    exact {
      digits_pos := Nat.one_pos
      digits_lt := Nat.one_lt_pow (by decide) (by decide)
      scale_ge := by omega
      roundsTo := hvalue ▸ hrounds
      shortest := fun digits scale _ => hone.trans_le Nat.length_toDigits_pos }
  · rename_i hnonzero
    have hmin := hfound.digits_ge
    have hlt : d.digits < 10 ^ (count + 1) := by
      refine Nat.lt_of_le_of_ne hfound.digits_le fun heq => hnonzero ?_
      rw [heq, pow_succ, Nat.mul_mod_left]
    have hlength : (Nat.toDigits 10 d.digits).length = count + 1 := length_toDigits_eq hmin hlt
    have hscale' : d.scale = d.point - (count + 1 : Nat) := by rw [Decimal.scale, hlength]
    exact {
      digits_pos := Nat.lt_of_lt_of_le (by positivity) hmin
      digits_lt := hlt.trans_le (Nat.pow_le_pow_right (by decide) (by omega))
      scale_ge := hscale'.symm ▸ hscale
      roundsTo := by
        rw [Decimal.value, hscale']
        exact hrounds
      shortest := fun digits scale h' => hlength.trans_le (hfound.lt_length h h') }

/-- What rounds to a magnitude is not much larger than the largest one. -/
theorem RoundsTo.lt_ten_pow {q : ℚ} (h : RoundsTo q m.code) : q < 10 ^ 309 := by
  have hupper : q < value (m.code + 1) := by
    have := ulp_pos m.code
    have hmidpoint := midpoint_eq_succ m.code
    have := h.upper
    linarith
  have hmax : value (m.code + 1) ≤ value (2047 * binade) :=
    value_strictMono.monotone m.code_lt
  have hunits : units (2047 * binade) ≤ 10 ^ 309 * 2 ^ leastExponent := by decide +kernel
  have hvalue : value (2047 * binade) ≤ 10 ^ 309 := by
    rw [value, div_le_iff₀ (by positivity)]
    exact_mod_cast hunits
  exact hupper.trans_le (hmax.trans hvalue)

namespace Faithful

variable {d : Decimal}

theorem scale_le (h : Faithful m d) : d.scale ≤ 308 := by
  have hone : (1 : ℚ) ≤ d.digits := by exact_mod_cast h.digits_pos
  have hpos : (0 : ℚ) < 10 ^ d.scale := by positivity
  have hlt := h.roundsTo.lt_ten_pow
  have hpower : (10 : ℚ) ^ d.scale < 10 ^ (309 : Int) := by
    calc (10 : ℚ) ^ d.scale ≤ d.value := le_mul_of_one_le_left hpos.le hone
      _ < 10 ^ 309 := hlt
      _ = 10 ^ (309 : Int) := (zpow_natCast ..).symm
  have := ten_zpow_lt_iff.mp hpower
  omega

theorem length_le (h : Faithful m d) : (Nat.toDigits 10 d.digits).length ≤ 17 :=
  (Nat.length_toDigits_le_iff (by decide) (by decide)).mpr h.digits_lt

end Faithful

end Magnitude
end HttpGet
