/-
Numbers that are written and read again.

The text of a number is a literal, so a number that has been decoded is decoded again from what
it is displayed as.  An integer is decoded to itself.  A floating point number is displayed by a
decimal that rounds to it, but the decoder does not round the decimal: it rounds the significand
and the power of ten, and what they give.  Where those two need no rounding, the number comes
back.  Elsewhere it may come back a few steps off, and no more than that.
-/
import HttpGet.Proofs.Integers
import HttpGet.Proofs.Json.Layout

namespace HttpGet

namespace Json

open Magnitude

/-! ### The number that is read again -/

/-- What is read again for a floating point number from the literal that it is displayed as. -/
structure Reread (x : Binary64) (shown : NumberLiteral) (y : Binary64) : Prop where
  sign : shown.negative = x.negative ∧ y.negative = x.negative
  faithful : RoundsTo shown.numeral.spelled x.magnitude.code
  apart : Apart (drift shown.numeral.power) x.magnitude y.magnitude
  exact : (∃ code, value code = shown.numeral.significand) → shown.numeral.power.natAbs ≤ 22 → y = x

/-- The two largest magnitudes are read again. -/
theorem exists_scaled_shortest {m : Magnitude} (h : ¬ m.code + 2 < 2047 * binade) :
    ∃ m', scaled (m.shortest .even).digits (m.shortest .even).scale = some m' := by
  have hlt := m.code_lt
  rw [← Option.isSome_iff_exists]
  rcases (by omega : m.code = 2047 * binade - 1 ∨ m.code = 2047 * binade - 2) with hcode | hcode
  · obtain rfl : m = ⟨2047 * binade - 1, by decide⟩ := eq_of_code_eq hcode
    decide +kernel
  · obtain rfl : m = ⟨2047 * binade - 2, by decide⟩ := eq_of_code_eq hcode
    decide +kernel

namespace Shows

variable {l : NumberLiteral} {m : Magnitude}

theorem roundsTo (h : Shows l (m.shortest .even)) : RoundsTo l.numeral.spelled m.code := by
  rw [h.spelled]
  by_cases hm : m.code = 0
  · have hvalue : (m.shortest .even).value = value m.code := by
      rw [shortest_zero hm, Decimal.value, Nat.cast_zero, zero_mul, hm, value_zero]
    rw [hvalue]
    exact roundsTo_value m.code
  · exact (shortest_faithful .even hm).roundsTo

theorem scalable (hm : m.code ≠ 0) (h : Shows l (m.shortest .even)) :
    Scalable l.numeral.significand l.numeral.power := by
  have hfaithful := shortest_faithful .even hm
  have hlow := hfaithful.scale_ge
  have hhigh := hfaithful.scale_le
  have hlt := hfaithful.digits_lt
  have hlargest : largestPower = 308 := rfl
  have hpos : 0 < l.numeral.significand := by
    refine Nat.pos_of_ne_zero fun hzero => ?_
    have hspelled : l.numeral.spelled = value 0 := by
      rw [Numeral.spelled, hzero, Nat.cast_zero, zero_mul, value_zero]
    exact hm (h.roundsTo.unique (hspelled ▸ roundsTo_value 0))
  rcases h.place with ⟨hsignificand, hpower⟩ | ⟨hsignificand, hpower⟩
  · exact ⟨hpos, by omega, by omega, by omega⟩
  · exact ⟨hpos, by omega, by omega, by omega⟩

/-- A literal that shows a magnitude is scaled to one. -/
theorem exists_scaled (hm : m.code ≠ 0) (h : Shows l (m.shortest .even)) :
    ∃ m', scaled l.numeral.significand l.numeral.power = some m' := by
  have hscalable := h.scalable hm
  rcases h.place with ⟨hsignificand, hpower⟩ | ⟨-, hpower⟩
  · by_cases hroom : m.code + 2 < 2047 * binade
    · exact Json.exists_scaled hscalable h.roundsTo (Or.inr hroom)
    · rw [hsignificand, hpower]
      exact exists_scaled_shortest hroom
  · exact Json.exists_scaled hscalable h.roundsTo (Or.inl (by omega))

/-- A literal that shows zero is scaled to zero. -/
theorem scaled_of_zero (hm : m.code = 0) (h : Shows l (m.shortest .even)) :
    l.numeral.significand = 0 ∧ scaled l.numeral.significand l.numeral.power = some m := by
  have hspelled : l.numeral.spelled = 0 := by
    rw [h.spelled, shortest_zero hm, Decimal.value, Nat.cast_zero, zero_mul]
  have hzero : l.numeral.significand = 0 := by
    rw [Numeral.spelled] at hspelled
    exact_mod_cast (mul_eq_zero.mp hspelled).resolve_right (by positivity)
  have hplace := h.place
  rw [shortest_zero hm] at hplace
  have hpower : l.numeral.power.natAbs ≤ 22 := by
    rcases hplace with ⟨-, hpower⟩ | ⟨-, hpower⟩
    · rw [hpower]
      decide
    · rw [hpower]
      decide
  have hvalue : ∃ code, value code = l.numeral.significand :=
    ⟨0, by rw [hzero, Nat.cast_zero, value_zero]⟩
  exact ⟨hzero, scaled_exact (by omega) hvalue hpower h.roundsTo⟩

/-- What a literal that shows a magnitude is scaled to. -/
theorem apart (h : Shows l (m.shortest .even)) :
    l.numeral.significand < 0x10000000000000000 ∧
      ∃ m', scaled l.numeral.significand l.numeral.power = some m' ∧
        Apart (drift l.numeral.power) m m' := by
  by_cases hm : m.code = 0
  · obtain ⟨hzero, hscaled⟩ := h.scaled_of_zero hm
    exact ⟨by omega, m, hscaled, Nat.le_add_right .., Nat.le_add_right ..⟩
  · obtain ⟨m', hm'⟩ := h.exists_scaled hm
    exact ⟨(h.scalable hm).fits, m', hm', apart_of_scaled (h.scalable hm) h.roundsTo hm'⟩

end Shows

/-- **A floating point number is displayed as a literal that rounds to it, and is read again from
it: as itself where nothing else is rounded, and otherwise two or three steps off at most.** -/
theorem exists_reread (x : Binary64) :
    ∃ shown y, (Number.real x).write = shown.chars ∧ shown.numeral.Denotes (.real y) ∧
      Reread x shown y := by
  obtain ⟨shown, hwrite, hnegative, hshows⟩ := exists_shows x
  obtain ⟨hfits, m', hm', happart⟩ := hshows.apart
  refine ⟨shown, ⟨shown.negative, m'⟩, hwrite,
    Numeral.denotes_real hshows.real hfits hshows.exponent hm', ⟨hnegative, hnegative⟩,
    hshows.roundsTo, happart, fun hvalue hpower => ?_⟩
  rw [scaled_exact hfits hvalue hpower hshows.roundsTo] at hm'
  rw [hnegative, ← Option.some.inj hm']

end Json

/-- A literal that is announced as JSON is decoded to the number that it denotes. -/
theorem decode_literal {contentType : Option String} {l : Json.NumberLiteral} {x : Json.Number}
    (h : Payload.isJsonContent contentType = true) (hx : l.numeral.Denotes x) :
    Payload.decode contentType (String.ofList l.chars) = .ok (.json (.number x)) := by
  rw [decode_of_isJsonContent _ h, Json.parse_literal_eq_ok_iff.mpr (.number hx)]
  rfl

/-- **A number literal that is decoded is displayed as a literal that is decoded again.** -/
theorem decode_compact_literal {l : Json.NumberLiteral} {p : Payload} {left right : String}
    (h : Payload.decode (Payload.announcing left right) (String.ofList l.chars) = .ok p)
    (left' right' : String) :
    (∃ i, p = .json (.number (.integer i)) ∧
      Payload.decode (Payload.announcing left' right') p.compact = .ok p) ∨
    ∃ x shown y, p = .json (.number (.real x)) ∧ p.compact = String.ofList shown.chars ∧
      Payload.decode (Payload.announcing left' right') p.compact =
        .ok (.json (.number (.real y))) ∧
      Json.Reread x shown y := by
  have hjson : Payload.isJsonContent (Payload.announcing left right) = true :=
    isJsonContent_append left right
  have hjson' : Payload.isJsonContent (Payload.announcing left' right') = true :=
    isJsonContent_append left' right'
  rw [decode_of_isJsonContent _ hjson] at h
  cases hparse : Json.parse (String.ofList l.chars) with
  | error e => simp [hparse, Except.map] at h
  | ok v =>
      rw [hparse] at h
      obtain rfl : Payload.json v = p := Except.ok.inj h
      cases Json.parse_literal_eq_ok_iff.mp hparse with
      | @number _ x hx =>
          have hcompact : (Payload.json (.number x)).compact = String.ofList x.write := by
            rw [Payload.compact, Json.toCompactString, Json.compact]
          cases x with
          | integer i =>
              refine Or.inl ⟨i, rfl, ?_⟩
              rw [hcompact, Json.write_integer]
              exact decode_literal hjson' (Json.denotes_integerLiteral_iff.mpr rfl)
          | real x =>
              obtain ⟨shown, y, hwrite, hdenotes, hreread⟩ := Json.exists_reread x
              rw [hwrite] at hcompact
              refine Or.inr ⟨x, shown, y, rfl, hcompact, ?_, hreread⟩
              rw [hcompact]
              exact decode_literal hjson' hdenotes

/-- The literal of an integer with an exponent, which makes it a floating point number. -/
def exponentZero (n : Nat) : Json.NumberLiteral :=
  ⟨false, .ofNat n, Json.Digits.ofNat_noLeadingZero n, none, some (Json.signedExponent 0)⟩

/-- The floating point number 3602879701896398.  The next one is half a unit away. -/
def drifting : Binary64 := ⟨false, ⟨4839568159572335004, by decide⟩⟩

theorem decode_drifting :
    Payload.decode (Payload.announcing "" "") (String.ofList (exponentZero 3602879701896398).chars) =
      .ok (.json (.number (.real drifting))) :=
  decode_literal (isJsonContent_append "" "")
    ((Json.Numeral.value_eq_ok_iff _ _).mp (by decide +kernel))

theorem decode_compact_literal_drifting :
    Payload.decode (Payload.announcing "" "") (String.ofList (exponentZero 3602879701896398).chars) =
      .ok (.json (.number (.real drifting))) ∧
    ((∃ i, Payload.json (.number (.real drifting)) = .json (.number (.integer i)) ∧
      Payload.decode (Payload.announcing "" "; charset=utf-8")
        (Payload.json (.number (.real drifting))).compact = .ok (.json (.number (.real drifting)))) ∨
    ∃ x shown y, Payload.json (.number (.real drifting)) = .json (.number (.real x)) ∧
      (Payload.json (.number (.real drifting))).compact = String.ofList shown.chars ∧
      Payload.decode (Payload.announcing "" "; charset=utf-8")
        (Payload.json (.number (.real drifting))).compact = .ok (.json (.number (.real y))) ∧
      Json.Reread x shown y) :=
  ⟨decode_drifting, decode_compact_literal decode_drifting "" "; charset=utf-8"⟩

/-- A number that is displayed with all its digits, and is decoded from them to the next one: the
zero behind the point makes the significand too large to be kept exactly. -/
theorem decode_compact_drifting_ne :
    Payload.decode (Payload.announcing "" "") "3602879701896398e+0" =
      .ok (.json (.number (.real drifting))) ∧
    (Payload.json (.number (.real drifting))).compact = "3602879701896398.0" ∧
    Payload.decode (Payload.announcing "" "")
        (Payload.json (.number (.real drifting))).compact ≠
      .ok (.json (.number (.real drifting))) := by
  have htext : String.ofList (exponentZero 3602879701896398).chars = "3602879701896398e+0" := by
    decide +kernel
  have hcompact : (Payload.json (.number (.real drifting))).compact =
      String.ofList (Json.fixedLiteral false (.ofNat 3602879701896398) (.ofNat 0)
        (Json.Digits.ofNat_noLeadingZero _)).chars := by decide +kernel
  have hagain : Payload.decode (Payload.announcing "" "")
      (Payload.json (.number (.real drifting))).compact =
        .ok (.json (.number (.real ⟨false, ⟨4839568159572335005, by decide⟩⟩))) := by
    rw [hcompact]
    exact decode_literal (isJsonContent_append "" "")
      ((Json.Numeral.value_eq_ok_iff _ _).mp (by decide +kernel))
  refine ⟨htext ▸ decode_drifting, by decide +kernel, ?_⟩
  rw [hagain, drifting]
  simp

end HttpGet
