/-
Reading a number literal.

`readNumber` accepts a text exactly if it begins with a literal that denotes a number, and
takes as much of it as the longest such literal has: that is what `Stops` is for.  A
literal may be followed by anything that neither is a digit nor begins a fraction or an
exponent, and then it is read to its end and no further.
-/
import HttpGet.Proofs.Json.Numeral

namespace HttpGet.Json

/-- No digit comes next. -/
def NoDigit (s : List Char) : Prop := ∀ c rest, s = c :: rest → c.isDigit = false

/-- No number literal goes on with this text. -/
def Stops (s : List Char) : Prop :=
  ∀ c rest, s = c :: rest → c.isDigit = false ∧ c ≠ '.' ∧ c ≠ 'e' ∧ c ≠ 'E'

theorem Stops.noDigit {s : List Char} (h : Stops s) : NoDigit s :=
  fun c rest hs => (h c rest hs).1

theorem noDigit_cons {c : Char} {rest : List Char} (h : c.isDigit = false) : NoDigit (c :: rest) := by
  intro d r hs
  rw [← (List.cons.inj hs).1]
  exact h

/-! ### Runs of digits -/

theorem takeWhile_digits {ds rest : List Char} (hd : ∀ c ∈ ds, c.isDigit = true)
    (hrest : NoDigit rest) : (ds ++ rest).takeWhile Char.isDigit = ds := by
  rw [List.takeWhile_append_of_pos hd]
  cases rest with
  | nil => simp
  | cons c rest => simp [hrest c rest rfl]

theorem dropWhile_digits {ds rest : List Char} (hd : ∀ c ∈ ds, c.isDigit = true)
    (hrest : NoDigit rest) : (ds ++ rest).dropWhile Char.isDigit = rest := by
  rw [List.dropWhile_append_of_pos hd]
  cases rest with
  | nil => simp
  | cons c rest => simp [hrest c rest rfl]

theorem isDigit_of_mem_takeWhile {s : List Char} : ∀ c ∈ s.takeWhile Char.isDigit, c.isDigit = true :=
  List.all_eq_true.mp List.all_takeWhile

/-- A run of digits has a first one. -/
theorem Digits.eq_cons (d : Digits) :
    ∃ c cs, d.chars = c :: cs ∧ c.isDigit = true ∧ ∀ x ∈ cs, x.isDigit = true := by
  obtain ⟨c, cs, h⟩ := List.exists_cons_of_ne_nil d.nonempty
  refine ⟨c, cs, h, d.digit c (by simp [h]), fun x hx => d.digit x (by simp [h, hx])⟩

/-! ### The whole part -/

theorem wholePart_sound {s ds rest : List Char} (h : wholePart s = .ok (ds, rest)) :
    ∃ d : Digits, d.chars = ds ∧ (∀ r, d.chars = '0' :: r → r = []) ∧ s = ds ++ rest := by
  unfold wholePart at h
  split at h
  · simp at h
  · split at h
    · simp at h
    · simp only [Except.ok.injEq, Prod.mk.injEq] at h
      obtain ⟨rfl, rfl⟩ := h
      have hdigit : ∀ c ∈ ['0'], c.isDigit = true := by
        intro c hc
        rw [List.mem_singleton.mp hc]
        rfl
      exact ⟨⟨['0'], by simp, hdigit⟩, rfl, by simp, by simp⟩
  · rename_i c r hzero
    split at h
    · rename_i hc
      simp only [Except.ok.injEq, Prod.mk.injEq] at h
      obtain ⟨rfl, rfl⟩ := h
      refine ⟨⟨c :: r.takeWhile Char.isDigit, by simp, ?_⟩, rfl, ?_, ?_⟩
      · intro x hx
        rcases List.mem_cons.mp hx with rfl | hx
        · exact hc
        · exact isDigit_of_mem_takeWhile x hx
      · intro r' hr
        exact absurd (List.cons.inj hr).1 hzero
      · simp
    · simp at h

theorem wholePart_complete {d : Digits} {rest : List Char}
    (hzero : ∀ r, d.chars = '0' :: r → r = []) (hrest : NoDigit rest) :
    wholePart (d.chars ++ rest) = .ok (d.chars, rest) := by
  obtain ⟨c, cs, hd, hc, hcs⟩ := d.eq_cons
  rw [hd]
  by_cases hc0 : c = '0'
  · subst hc0
    rw [hzero cs hd]
    have hhead : ¬ (rest.head?.map Char.isDigit).getD false = true := by
      cases rest with
      | nil => simp
      | cons x rest => simp [hrest x rest rfl]
    simp [wholePart, hhead]
  · rw [List.cons_append, wholePart]
    · rw [if_pos hc, takeWhile_digits hcs hrest, dropWhile_digits hcs hrest]
    · exact hc0

/-! ### The fraction -/

theorem fractionPart_sound {s rest : List Char} {f : Option (List Char)}
    (h : fractionPart s = .ok (f, rest)) :
    ∃ d : Option Digits, d.map Digits.chars = f ∧ s = NumberLiteral.fractionChars d ++ rest := by
  unfold fractionPart at h
  split at h
  · rename_i r
    by_cases hne : (r.takeWhile Char.isDigit).isEmpty = true
    · simp [hne] at h
    · simp only [if_neg hne, Except.ok.injEq, Prod.mk.injEq] at h
      obtain ⟨rfl, rfl⟩ := h
      refine ⟨some ⟨r.takeWhile Char.isDigit, by simpa using hne, isDigit_of_mem_takeWhile⟩, rfl, ?_⟩
      simp [NumberLiteral.fractionChars]
  · simp only [Except.ok.injEq, Prod.mk.injEq] at h
    obtain ⟨rfl, rfl⟩ := h
    exact ⟨none, rfl, rfl⟩

theorem fractionPart_complete {d : Option Digits} {rest : List Char} (hrest : NoDigit rest)
    (hdot : ∀ r, rest ≠ '.' :: r) :
    fractionPart (NumberLiteral.fractionChars d ++ rest) = .ok (d.map Digits.chars, rest) := by
  cases d with
  | none =>
      show fractionPart rest = .ok (none, rest)
      unfold fractionPart
      split
      · rename_i r
        exact absurd rfl (hdot r)
      · rfl
  | some d =>
      show fractionPart ('.' :: (d.chars ++ rest)) = .ok (some d.chars, rest)
      have hne : ¬ d.chars.isEmpty = true := by
        rw [List.isEmpty_iff]
        exact d.nonempty
      simp only [fractionPart, takeWhile_digits d.digit hrest, dropWhile_digits d.digit hrest,
        if_neg hne]

/-! ### The exponent -/

theorem exponentDigits_sound {s ds rest : List Char} (h : exponentDigits s = .ok (ds, rest)) :
    ∃ d : Digits, d.chars = ds ∧ s = ds ++ rest := by
  unfold exponentDigits at h
  split at h
  · simp at h
  · rename_i c r
    split at h
    · rename_i hc
      simp only [Except.ok.injEq, Prod.mk.injEq] at h
      obtain ⟨rfl, rfl⟩ := h
      refine ⟨⟨c :: r.takeWhile Char.isDigit, by simp, ?_⟩, rfl, by simp⟩
      intro x hx
      rcases List.mem_cons.mp hx with rfl | hx
      · exact hc
      · exact isDigit_of_mem_takeWhile x hx
    · simp at h

theorem exponentDigits_complete (d : Digits) {rest : List Char} (hrest : NoDigit rest) :
    exponentDigits (d.chars ++ rest) = .ok (d.chars, rest) := by
  obtain ⟨c, cs, hd, hc, hcs⟩ := d.eq_cons
  rw [hd, List.cons_append, exponentDigits, if_pos hc, takeWhile_digits hcs hrest,
    dropWhile_digits hcs hrest]

theorem exponentSign_sound (s : List Char) :
    ∃ sign : Sign, (sign == .minus) = (exponentSign s).1 ∧ s = sign.chars ++ (exponentSign s).2 := by
  unfold exponentSign
  split
  · exact ⟨.minus, rfl, rfl⟩
  · exact ⟨.plus, rfl, rfl⟩
  · exact ⟨.absent, rfl, rfl⟩

theorem exponentSign_complete (sign : Sign) {c : Char} (hc : c.isDigit = true) (rest : List Char) :
    exponentSign (sign.chars ++ c :: rest) = (sign == .minus, c :: rest) := by
  cases sign with
  | minus => rfl
  | plus => rfl
  | absent =>
      show exponentSign (c :: rest) = (false, c :: rest)
      unfold exponentSign
      split
      · rename_i h
        rw [(List.cons.inj h).1] at hc
        exact absurd hc (by decide)
      · rename_i h
        rw [(List.cons.inj h).1] at hc
        exact absurd hc (by decide)
      · rfl

theorem exponentPart_sound {s rest : List Char} {e : Option (Bool × List Char)}
    (h : exponentPart s = .ok (e, rest)) :
    ∃ l : Option ExponentLiteral,
      (l.map fun l => (l.sign == .minus, l.digits.chars)) = e ∧
        s = NumberLiteral.exponentChars l ++ rest := by
  unfold exponentPart at h
  split at h
  · rename_i c r
    split at h
    · rename_i hc
      obtain ⟨sign, hneg, hr⟩ := exponentSign_sound r
      simp only at h
      split at h
      · simp at h
      · rename_i ds after hdigits
        simp only [Except.ok.injEq, Prod.mk.injEq] at h
        obtain ⟨rfl, rfl⟩ := h
        obtain ⟨d, rfl, hd⟩ := exponentDigits_sound hdigits
        refine ⟨some ⟨c, by simpa using hc, sign, d⟩, ?_, ?_⟩
        · rw [Option.map_some, hneg]
        · rw [hr, hd]
          simp [NumberLiteral.exponentChars, ExponentLiteral.chars]
    · simp only [Except.ok.injEq, Prod.mk.injEq] at h
      obtain ⟨rfl, rfl⟩ := h
      exact ⟨none, rfl, rfl⟩
  · simp only [Except.ok.injEq, Prod.mk.injEq] at h
    obtain ⟨rfl, rfl⟩ := h
    exact ⟨none, rfl, rfl⟩

theorem exponentPart_complete {l : Option ExponentLiteral} {rest : List Char} (hrest : Stops rest) :
    exponentPart (NumberLiteral.exponentChars l ++ rest) =
      .ok (l.map fun l => (l.sign == .minus, l.digits.chars), rest) := by
  cases l with
  | none =>
      show exponentPart rest = .ok (none, rest)
      cases rest with
      | nil => rfl
      | cons c r =>
          obtain ⟨-, -, he, hE⟩ := hrest c r rfl
          simp [exponentPart, he, hE]
  | some l =>
      obtain ⟨c, cs, hd, hc, hcs⟩ := l.digits.eq_cons
      have hdigits := exponentDigits_complete l.digits hrest.noDigit
      rw [hd, List.cons_append] at hdigits
      have hsign := exponentSign_complete l.sign hc (cs ++ rest)
      have hchars : NumberLiteral.exponentChars (some l) ++ rest =
          l.letter :: (l.sign.chars ++ c :: (cs ++ rest)) := by
        simp [NumberLiteral.exponentChars, ExponentLiteral.chars, hd]
      rw [hchars, exponentPart, if_pos (by simpa using l.isLetter), hsign]
      simp only [hdigits, Option.map_some, hd]

/-! ### The whole literal -/

/-- A number begins with a minus sign or a digit. -/
theorem NumberLiteral.chars_eq_cons (l : NumberLiteral) :
    ∃ c rest, l.chars = c :: rest ∧ (c = '-' ∨ c.isDigit = true) := by
  obtain ⟨c, cs, hd, hc, -⟩ := l.whole.eq_cons
  unfold NumberLiteral.chars
  cases l.negative with
  | true => exact ⟨'-', _, rfl, Or.inl rfl⟩
  | false => exact ⟨c, _, by rw [hd]; rfl, Or.inr hc⟩

theorem unsignedNumeral_sound {negative : Bool} {s rest : List Char} {n : Numeral}
    (h : unsignedNumeral negative s = .ok (n, rest)) :
    ∃ l : NumberLiteral, l.numeral = n ∧
      (if negative then ['-'] else []) ++ s = l.chars ++ rest := by
  unfold unsignedNumeral at h
  split at h
  · simp at h
  · rename_i whole s₁ hwhole
    split at h
    · simp at h
    · rename_i fraction s₂ hfraction
      split at h
      · simp at h
      · rename_i exponent s₃ hexponent
        simp only [Except.ok.injEq, Prod.mk.injEq] at h
        obtain ⟨rfl, rfl⟩ := h
        obtain ⟨w, rfl, hzero, hs⟩ := wholePart_sound hwhole
        obtain ⟨f, rfl, hs₁⟩ := fractionPart_sound hfraction
        obtain ⟨e, rfl, hs₂⟩ := exponentPart_sound hexponent
        refine ⟨⟨negative, w, hzero, f, e⟩, rfl, ?_⟩
        rw [hs, hs₁, hs₂]
        simp [NumberLiteral.chars]

theorem numeral_sound {s rest : List Char} {n : Numeral} (h : numeral s = .ok (n, rest)) :
    ∃ l : NumberLiteral, l.numeral = n ∧ s = l.chars ++ rest := by
  unfold numeral at h
  split at h
  · exact unsignedNumeral_sound h
  · exact unsignedNumeral_sound h

theorem unsignedNumeral_complete {l : NumberLiteral} {rest : List Char} (hrest : Stops rest) :
    unsignedNumeral l.negative (l.whole.chars ++ (NumberLiteral.fractionChars l.fraction ++
      (NumberLiteral.exponentChars l.exponent ++ rest))) = .ok (l.numeral, rest) := by
  -- What follows the whole part and the fraction is a fraction, an exponent or the rest.
  have hexp : NoDigit (NumberLiteral.exponentChars l.exponent ++ rest) ∧
      ∀ r, NumberLiteral.exponentChars l.exponent ++ rest ≠ '.' :: r := by
    cases l.exponent with
    | none => exact ⟨hrest.noDigit, fun r hr => (hrest '.' r hr).2.1 rfl⟩
    | some e =>
        have hletter : e.letter.isDigit = false ∧ e.letter ≠ '.' := by
          rcases e.isLetter with h | h <;> rw [h] <;> decide
        exact ⟨noDigit_cons hletter.1, fun r hr => hletter.2 (List.cons.inj hr).1⟩
  have hfrac : NoDigit (NumberLiteral.fractionChars l.fraction ++
      (NumberLiteral.exponentChars l.exponent ++ rest)) := by
    cases l.fraction with
    | none => exact hexp.1
    | some d => exact noDigit_cons (by decide)
  rw [unsignedNumeral, wholePart_complete l.noLeadingZero hfrac]
  simp only [fractionPart_complete hexp.1 hexp.2, exponentPart_complete hrest]
  rfl

theorem numeral_complete {l : NumberLiteral} {rest : List Char} (hrest : Stops rest) :
    numeral (l.chars ++ rest) = .ok (l.numeral, rest) := by
  have h := unsignedNumeral_complete (l := l) hrest
  obtain ⟨c, cs, hd, hc, -⟩ := l.whole.eq_cons
  cases hneg : l.negative with
  | true =>
      rw [hneg] at h
      simpa [NumberLiteral.chars, hneg, numeral] using h
  | false =>
      rw [hneg, hd, List.cons_append] at h
      have hchars : l.chars ++ rest = c :: (cs ++ (NumberLiteral.fractionChars l.fraction ++
          (NumberLiteral.exponentChars l.exponent ++ rest))) := by
        simp [NumberLiteral.chars, hneg, hd]
      rw [hchars, numeral]
      · exact h
      · intro r hr
        rw [(List.cons.inj hr).1] at hc
        exact absurd hc (by decide)

/-- What is read as a number is a literal that denotes it. -/
theorem readNumber_sound {s rest : List Char} {x : Number} (h : readNumber s = .ok (x, rest)) :
    ∃ l : NumberLiteral, l.numeral.Denotes x ∧ s = l.chars ++ rest := by
  unfold readNumber at h
  split at h
  · simp at h
  · rename_i n r hn
    split at h
    · rename_i y hy
      simp only [Except.ok.injEq, Prod.mk.injEq] at h
      obtain ⟨rfl, rfl⟩ := h
      obtain ⟨l, rfl, hs⟩ := numeral_sound hn
      exact ⟨l, (Numeral.value_eq_ok_iff _ _).mp hy, hs⟩
    · simp at h

/-- A literal that denotes a number is read as that number. -/
theorem readNumber_complete {l : NumberLiteral} {x : Number} {rest : List Char}
    (h : l.numeral.Denotes x) (hrest : Stops rest) :
    readNumber (l.chars ++ rest) = .ok (x, rest) := by
  have hvalue := (Numeral.value_eq_ok_iff _ _).mpr h
  simp only [readNumber, numeral_complete hrest, hvalue]

end HttpGet.Json
