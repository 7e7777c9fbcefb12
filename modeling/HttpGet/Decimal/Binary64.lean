/-
Binary floating point numbers of 64 bits.

The finite magnitudes are numbered in order of size, beginning with zero: number `c`
has the significand and the exponent that its bits spell.  Because the numbering is the
order, the neighbours of a magnitude are `c - 1` and `c + 1`, and a rounding that
carries into the next power of two needs no case of its own.

All arithmetic is exact on naturals until `Magnitude.nearest?` rounds a fraction to the
closest magnitude, of two equally close ones to the one with the even significand.
-/

namespace HttpGet

/-- Which of two equally near integers a rounding takes. -/
inductive Tie where
  | even
  | upper
deriving DecidableEq, Repr

/-- How many magnitudes lie from one power of two up to the next: 2 to the power 52. -/
def binade : Nat := 0x10000000000000

/-- A finite magnitude, by its place in the order of size. -/
structure Magnitude where
  code : Nat
  code_lt : code < 2047 * binade
deriving DecidableEq, Repr

namespace Magnitude

/-- The number zero. -/
def zero : Magnitude := ⟨0, by decide⟩

instance : Inhabited Magnitude := ⟨zero⟩

/-- Magnitudes are ordered as they are numbered. -/
instance : LT Magnitude := ⟨fun a b => a.code < b.code⟩

instance (a b : Magnitude) : Decidable (a < b) := inferInstanceAs (Decidable (a.code < b.code))

/-- The integer that the exponent scales: below a binade for the subnormal magnitudes,
from there to twice as much for all others. -/
def significand (m : Magnitude) : Nat :=
  if m.code < binade then m.code else binade + m.code % binade

/-- How far above the least power of two the significand is scaled. -/
def shift (m : Magnitude) : Nat := m.code / binade - 1

/-- The least power of two that scales a significand is `2 ^ (-leastExponent)`. -/
def leastExponent : Nat := 1074

/-- The value, as a fraction: the numerator. -/
def numerator (m : Magnitude) : Nat := m.significand * Nat.pow 2 (m.shift - leastExponent)

/-- The value, as a fraction: the denominator. -/
def denominator (m : Magnitude) : Nat := Nat.pow 2 (leastExponent - m.shift)

/-- The integer nearest to `num / den`. -/
def roundedQuotient (tie : Tie) (num den : Nat) : Nat :=
  let quotient := num / den
  let twice := 2 * (num % den)
  if den < twice || (twice = den && (tie = .upper || quotient % 2 = 1)) then quotient + 1
  else quotient

/-- How far `num / den` has to be scaled down from the least power of two for its
integer part to have at most 53 bits. -/
def shiftFor (num den : Nat) : Nat :=
  let estimate := num.log2 + leastExponent - (den.log2 + 53)
  if num * Nat.pow 2 leastExponent / (den * Nat.pow 2 estimate) < 2 * binade then estimate
  else estimate + 1

/-- The magnitude nearest to `num / den`, of two equally near ones the one with the even
significand; none if that would be `2 ^ 1024` or more. -/
def nearest? (num den : Nat) : Option Magnitude :=
  let shift := if num = 0 then 0 else shiftFor num den
  let significand := roundedQuotient .even (num * Nat.pow 2 leastExponent) (den * Nat.pow 2 shift)
  let code := shift * binade + significand
  if h : code < 2047 * binade then some ⟨code, h⟩ else none

/-- The magnitude of a natural number. -/
def ofNat? (n : Nat) : Option Magnitude := nearest? n 1

/-- The rounded sum. -/
def add? (a b : Magnitude) : Option Magnitude :=
  nearest? (a.numerator * b.denominator + b.numerator * a.denominator)
    (a.denominator * b.denominator)

/-- The rounded product. -/
def mul? (a b : Magnitude) : Option Magnitude :=
  nearest? (a.numerator * b.numerator) (a.denominator * b.denominator)

/-- The rounded quotient. -/
def div? (a b : Magnitude) : Option Magnitude :=
  nearest? (a.numerator * b.denominator) (a.denominator * b.numerator)

/-- The magnitude nearest to `digits * 10 ^ exponent`.  Beyond the range of exponents of
a magnitude the answer does not depend on the digits, and no power is computed. -/
def ofDecimal? (digits : Nat) (exponent : Int) : Option Magnitude :=
  if digits = 0 then some zero
  else
    let length : Int := (Nat.toDigits 10 digits).length
    if exponent + length < -400 then some zero
    else if 400 < exponent + length then none
    else if exponent < 0 then nearest? digits (Nat.pow 10 (-exponent).toNat)
    else nearest? (digits * Nat.pow 10 exponent.toNat) 1

end Magnitude

/-- A finite number: a magnitude with a sign, zero included. -/
structure Binary64 where
  negative : Bool
  magnitude : Magnitude
deriving DecidableEq, Repr

instance : Inhabited Binary64 := ⟨⟨false, .zero⟩⟩

namespace Binary64

/-- The number nearest to an integer below `2 ^ 64`. -/
def ofInt? (n : Int) : Option Binary64 :=
  (Magnitude.ofNat? n.natAbs).map fun m => ⟨decide (n < 0), m⟩

end Binary64

example : (Magnitude.nearest? 1 10).map (·.code) = some 0x3FB999999999999A := by decide +kernel
example : (Magnitude.ofDecimal? 5 (-324)).map (·.code) = some 1 := by decide +kernel
example : (Magnitude.ofDecimal? 17976931348623157 292).map (·.code) = some (2047 * binade - 1) := by
  decide +kernel
example : Magnitude.ofDecimal? 18 307 = none := by decide +kernel
example : (Magnitude.ofNat? (2 * binade + 1)).map Magnitude.numerator = some (2 * binade) := by
  decide +kernel

end HttpGet
