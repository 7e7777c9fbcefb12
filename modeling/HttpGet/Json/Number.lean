/-
Number literals.

Reading a number has two parts.  `numeral` finds the literal: an optional minus sign, a
whole part without a leading zero, a fraction, an exponent.  `Numeral.value` says which
number it stands for.  A literal of digits alone that fits 64 bits is that integer.  Any
other is a floating point number, made by collecting digits into a 64-bit significand
and scaling once by a power of ten:

* digits of the whole part that would overflow the significand are dropped, each of
  them adding one to the exponent;
* from the first digit of the fraction that would overflow it, all further digits of
  the fraction are dropped and change nothing; each digit kept subtracts one;
* the significand and the power of ten are rounded before they are multiplied or
  divided, and the result is rounded again.

So a literal of many digits need not be the nearest number.  Too large a result is no
number.
-/
import HttpGet.Json.Value
import HttpGet.Json.Failure

namespace HttpGet.Json

/-- The parts of a number literal: digits of the whole part, digits of the fraction, and
sign and digits of the exponent. -/
structure Numeral where
  negative : Bool
  whole : List Char
  fraction : Option (List Char)
  exponent : Option (Bool × List Char)
deriving DecidableEq, Repr

/-- Read the digits of the whole part: a zero alone, or a run that begins otherwise. -/
def wholePart : List Char → Scan (List Char)
  | [] => .error (.here .endInValue [])
  | '0' :: rest =>
    if (rest.head?.map Char.isDigit).getD false then .error (.ahead .invalidNumber rest)
    else .ok (['0'], rest)
  | c :: rest =>
    if c.isDigit then .ok (c :: rest.takeWhile Char.isDigit, rest.dropWhile Char.isDigit)
    else .error ⟨.invalidNumber, c :: rest, 1⟩

/-- Read a fraction, if there is one. -/
def fractionPart : List Char → Scan (Option (List Char))
  | '.' :: rest =>
    let digits := rest.takeWhile Char.isDigit
    if digits.isEmpty then
      .error (.ahead (if rest.isEmpty then .endInValue else .invalidNumber) rest)
    else .ok (some digits, rest.dropWhile Char.isDigit)
  | rest => .ok (none, rest)

/-- Read the digits of an exponent. -/
def exponentDigits : List Char → Scan (List Char)
  | [] => .error (.here .endInValue [])
  | c :: rest =>
    if c.isDigit then .ok (c :: rest.takeWhile Char.isDigit, rest.dropWhile Char.isDigit)
    else .error ⟨.invalidNumber, c :: rest, 1⟩

/-- Read the sign of an exponent, if it has one; the flag says that it is a minus. -/
def exponentSign : List Char → Bool × List Char
  | '-' :: rest => (true, rest)
  | '+' :: rest => (false, rest)
  | rest => (false, rest)

/-- Read an exponent, if there is one; the flag says that it is negative. -/
def exponentPart : List Char → Scan (Option (Bool × List Char))
  | c :: rest =>
    if c = 'e' || c = 'E' then
      let (negative, rest) := exponentSign rest
      match exponentDigits rest with
      | .error f => .error f
      | .ok (digits, rest) => .ok (some (negative, digits), rest)
    else .ok (none, c :: rest)
  | [] => .ok (none, [])

/-- Read the digits, the fraction and the exponent of a literal with this sign. -/
def unsignedNumeral (negative : Bool) (s : List Char) : Scan Numeral :=
  match wholePart s with
  | .error f => .error f
  | .ok (whole, s) =>
    match fractionPart s with
    | .error f => .error f
    | .ok (fraction, s) =>
      match exponentPart s with
      | .error f => .error f
      | .ok (exponent, s) => .ok (⟨negative, whole, fraction, exponent⟩, s)

/-- Read a number literal. -/
def numeral : List Char → Scan Numeral
  | '-' :: rest => unsignedNumeral true rest
  | s => unsignedNumeral false s

/-- The value of a decimal digit. -/
def digitValue (c : Char) : Nat := c.toNat - '0'.toNat

/-- Append digits to a significand while it stays below `2 ^ 64`; also the digits left
over. -/
def collect (significand : Nat) : List Char → Nat × List Char
  | [] => (significand, [])
  | c :: rest =>
    let next := significand * 10 + digitValue c
    if next < 0x10000000000000000 then collect next rest else (significand, c :: rest)

/-- The value of exponent digits below `2 ^ 31`, or the digits after the one that
exceeds it. -/
def exponentValue (value : Nat) : List Char → Except (List Char) Nat
  | [] => .ok value
  | c :: rest =>
    let next := value * 10 + digitValue c
    if next < 0x80000000 then exponentValue next rest else .error rest

/-- A power of ten as a magnitude. -/
def powerOfTen (n : Nat) : Magnitude := (Magnitude.ofNat? (Nat.pow 10 n)).getD .zero

/-- The largest power of ten that a magnitude is scaled by at once. -/
def largestPower : Nat := 308

/-- Divide a magnitude by `10 ^ n`, by `10 ^ 308` at a time; zero stays zero. -/
def scaleDown (m : Magnitude) (n : Nat) : Magnitude :=
  if n ≤ largestPower then (m.div? (powerOfTen n)).getD .zero
  else if m.code = 0 then m
  else scaleDown ((m.div? (powerOfTen largestPower)).getD .zero) (n - largestPower)
termination_by n
decreasing_by simp only [largestPower] at *; omega

/-- Multiply a magnitude by `10 ^ n`, if the product is small enough; zero stays zero. -/
def scaleUp (m : Magnitude) (n : Nat) : Option Magnitude :=
  if n ≤ largestPower then m.mul? (powerOfTen n)
  else if m.code = 0 then some m
  else none

/-- Scale a significand by a power of ten. -/
def scaled (significand : Nat) (exponent : Int) : Option Magnitude :=
  let m := (Magnitude.ofNat? significand).getD .zero
  if 0 ≤ exponent then scaleUp m exponent.toNat else some (scaleDown m (-exponent).toNat)

namespace Numeral

/-- The integer of a literal with this sign and these digits, if it is kept exactly.
Minus zero is not an integer. -/
def integer? (negative : Bool) (significand : Nat) : Option ExactInt :=
  if negative then if significand = 0 then none else ExactInt.ofInt? (-significand)
  else ExactInt.ofInt? significand

/-- The last step: scale a significand whose decimal point is `place` digits off, and use
the exponent if there is one. -/
def finish (n : Numeral) (significand : Nat) (place : Int) : Except (List Char) Number :=
  match n.exponent with
  | none => match scaled significand place with
    | some m => .ok (.real ⟨n.negative, m⟩)
    | none => .error []
  | some (negative, digits) =>
    match exponentValue 0 digits with
    | .error unread =>
      if significand = 0 || negative then .ok (.real ⟨n.negative, .zero⟩) else .error unread
    | .ok e => match scaled significand (if negative then place - e else place + e) with
      | some m => .ok (.real ⟨n.negative, m⟩)
      | none => .error []

/-- The number of a literal; or, if it is out of range, the part of the exponent's
digits that need not be read to know it. -/
def value (n : Numeral) : Except (List Char) Number :=
  let (significand, dropped) := collect 0 n.whole
  let integral := dropped.isEmpty && n.fraction.isNone && n.exponent.isNone
  match if integral then integer? n.negative significand else none with
  | some i => .ok (.integer i)
  | none =>
    let fraction := n.fraction.getD []
    let (significand, surplus) := collect significand fraction
    n.finish significand (dropped.length - (fraction.length - surplus.length : Nat))

end Numeral

/-- Read a number. -/
def readNumber (s : List Char) : Scan Number :=
  match numeral s with
  | .error f => .error f
  | .ok (n, rest) =>
    match n.value with
    | .ok x => .ok (x, rest)
    | .error unread => .error (.here .numberOutOfRange (unread ++ rest))

end HttpGet.Json
