/-
Shortest decimal text of a magnitude.

A decimal reads back as a magnitude if it lies in the interval of reals that round to
it; the ends belong to the interval when the significand is even.  For one, two, …
seventeen digits the two neighbours of the magnitude on that decimal grid are tested;
the first grid with a hit gives the digits, of two hits the nearer one.  Seventeen digits
always suffice.

Which of two equally near decimals is taken, and how the digits are laid out, is a
`Layout`, a value that the format which writes the number supplies.
-/
import HttpGet.Decimal.Binary64

namespace HttpGet

/-- A decimal `digits * 10 ^ (point - length of digits)`: the point stands after `point`
digits, before the first digit if `point` is zero or less. -/
structure Decimal where
  digits : Nat
  point : Int
deriving DecidableEq, Repr

namespace Magnitude

/-- The least `k` with `num / den < 10 ^ k`, for a positive fraction. -/
def decimalPoint (num den : Nat) : Int :=
  if den ≤ num then (Nat.toDigits 10 (num / den)).length
  else 1 - (Nat.toDigits 10 ((den + num - 1) / num - 1)).length

/-- Four times the distance from a magnitude to the lower end of its interval, counted
in units of the significand; the upper end is always two quarters of a unit away. -/
def lowerQuarters (m : Magnitude) : Nat :=
  if m.code % binade = 0 && 2 * binade ≤ m.code then 1 else 2

/-- Whether `digits * 10 ^ scale` rounds to the magnitude, all numbers being multiplied by
`4 * den` and the decimal's own denominator to become natural. -/
def covers (m : Magnitude) (digits : Nat) (scale : Int) : Bool :=
  let unit := Nat.pow 2 m.shift
  let up := Nat.pow 10 scale.toNat
  let down := Nat.pow 10 (-scale).toNat
  let decimal := 4 * digits * up * Nat.pow 2 leastExponent
  let low := (4 * m.significand - m.lowerQuarters) * unit * down
  let high := (4 * m.significand + 2) * unit * down
  if m.significand % 2 = 0 then low ≤ decimal && decimal ≤ high
  else low < decimal && decimal < high

/-- The digits on the grid `10 ^ scale` that round to the magnitude, the nearest ones if
both neighbours do. -/
def onGrid? (tie : Tie) (m : Magnitude) (scale : Int) : Option Nat :=
  let num := m.numerator * Nat.pow 10 (-scale).toNat
  let den := m.denominator * Nat.pow 10 scale.toNat
  let below := num / den
  let nearest := roundedQuotient tie num den
  let other := if nearest = below then below + 1 else below
  if m.covers nearest scale then some nearest
  else if m.covers other scale then some other
  else none

/-- The first grid with a hit, from `count` digits up. -/
def search (tie : Tie) (m : Magnitude) (point : Int) : (grids count : Nat) → Decimal
  | 0, count => ⟨(m.onGrid? tie (point - count)).getD 0, point⟩
  | grids + 1, count =>
    match m.onGrid? tie (point - count) with
    | some digits => ⟨digits, point⟩
    | none => search tie m point grids (count + 1)

/-- The shortest decimal that reads back as a magnitude other than zero. -/
def shortest (tie : Tie) (m : Magnitude) : Decimal :=
  if m.code = 0 then ⟨0, 1⟩
  else
    let point := decimalPoint m.numerator m.denominator
    let found := m.search tie point 16 1
    -- a hit that ends in zero is the power of ten above the magnitude: any other one
    -- would have been a hit on the grid before
    if found.digits % 10 = 0 then ⟨1, point + 1⟩ else found

end Magnitude

/-- How a number is written. -/
structure Layout where
  /-- Which of two equally near decimals is written. -/
  tie : Tie
  /-- Whether a number whose point is here is written positionally. -/
  positional : Int → Bool

namespace Layout

/-- Digits with the point after the first of them and a signed exponent. -/
def scientific (digits : List Char) (exponent : Int) : List Char :=
  let mantissa := match digits with
    | d :: e :: rest => d :: '.' :: e :: rest
    | short => short
  mantissa ++ 'e' :: (if exponent < 0 then '-' else '+') :: Nat.toDigits 10 exponent.natAbs

/-- Digits with zeros up to the point or from it, and at least one digit on each side. -/
def plain (digits : List Char) (point : Int) : List Char :=
  if point ≤ 0 then ['0', '.'] ++ List.replicate (-point).toNat '0' ++ digits
  else
    let whole := point.toNat
    if digits.length ≤ whole then
      digits ++ List.replicate (whole - digits.length) '0' ++ ['.', '0']
    else digits.take whole ++ '.' :: digits.drop whole

/-- The text of a number. -/
def write (l : Layout) (x : Binary64) : List Char :=
  let d := x.magnitude.shortest l.tie
  let digits := Nat.toDigits 10 d.digits
  let text := if l.positional d.point then plain digits d.point
    else scientific digits (d.point - 1)
  if x.negative then '-' :: text else text

end Layout
end HttpGet
