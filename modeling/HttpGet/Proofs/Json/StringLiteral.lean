/-
Reading a string literal.

`stringBody` accepts a text exactly if it begins with the pieces of a string and a closing
quote, and gives the characters that the pieces mean.  No piece begins with the quote, and
how long a piece is shows in its first characters, so there is one way to cut the text.
-/
import HttpGet.Json.Literal
import HttpGet.Proofs.Json.Grammar

namespace HttpGet.Json

/-! ### Escapes -/

theorem fourDigits_sound {s rest : List Char} {n : Nat} (h : fourDigits s = .ok (n, rest)) :
    ∃ u : CodeUnit, u.value = n ∧ s = u.digits ++ rest := by
  unfold fourDigits at h
  split at h
  · simp at h
  · split at h
    · rename_i n' a b c d r _ hn
      simp only [Except.ok.injEq, Prod.mk.injEq] at h
      obtain ⟨rfl, rfl⟩ := h
      exact ⟨⟨[a, b, c, d], rfl, n', hn⟩, rfl, rfl⟩
    · simp at h

theorem fourDigits_complete (u : CodeUnit) (rest : List Char) :
    fourDigits (u.digits ++ rest) = .ok (u.value, rest) := by
  obtain ⟨digits, hfour, n, hn⟩ := u
  obtain ⟨a, b, c, d, rfl⟩ := List.length_eq_four.mp hfour
  have hbytes : ¬ Position.bytes [a, b, c, d] < 4 := by
    have ha := a.utf8Size_pos
    have hb := b.utf8Size_pos
    have hc := c.utf8Size_pos
    have hd := d.utf8Size_pos
    simp only [Position.bytes_cons, Position.bytes_nil]
    omega
  show fourDigits (a :: b :: c :: d :: rest) = .ok (n, rest)
  have htake : (a :: b :: c :: d :: rest).take 4 = [a, b, c, d] := rfl
  simp only [fourDigits, htake, if_neg hbytes, hn]

theorem mem_shortEscapes_iff {l c : Char} : (l, c) ∈ shortEscapes ↔ escapedLetter? l = some c := by
  constructor
  · intro h
    simp only [shortEscapes, List.mem_cons, Prod.mk.injEq, List.not_mem_nil, or_false] at h
    rcases h with ⟨rfl, rfl⟩ | ⟨rfl, rfl⟩ | ⟨rfl, rfl⟩ | ⟨rfl, rfl⟩ | ⟨rfl, rfl⟩ | ⟨rfl, rfl⟩ |
      ⟨rfl, rfl⟩ | ⟨rfl, rfl⟩ <;> rfl
  · intro h
    unfold escapedLetter? at h
    split at h <;> simp_all [shortEscapes, eq_comm]

theorem pairedChar_eq (high low : CodeUnit) (hh : 0xD800 ≤ high.value ∧ high.value ≤ 0xDBFF)
    (hl : 0xDC00 ≤ low.value ∧ low.value ≤ 0xDFFF) :
    pairedChar high.value low.value = (Piece.pair high low hh hl).char := by
  have hcode : (high.value - 0xD800) * 0x400 + (low.value - 0xDC00) + 0x10000 =
      0x10000 + (high.value - 0xD800) * 0x400 + (low.value - 0xDC00) := by omega
  rw [pairedChar, hcode, Piece.char]

theorem lowSurrogate_sound {high : CodeUnit} {s rest : List Char} {c : Char}
    (hh : 0xD800 ≤ high.value ∧ high.value ≤ 0xDBFF)
    (h : lowSurrogate high.value s = .ok (c, rest)) :
    ∃ p : Piece, p.char = c ∧ '\\' :: 'u' :: high.digits ++ s = p.chars ++ rest := by
  unfold lowSurrogate at h
  split at h <;> try simp at h
  rename_i r
  split at h
  · simp at h
  · rename_i low after hlow
    split at h
    · rename_i hl
      simp only [Except.ok.injEq, Prod.mk.injEq] at h
      obtain ⟨rfl, rfl⟩ := h
      obtain ⟨u, rfl, hs⟩ := fourDigits_sound hlow
      have hlow' : 0xDC00 ≤ u.value ∧ u.value ≤ 0xDFFF := by simpa [isLowSurrogate] using hl
      refine ⟨.pair high u hh hlow', (pairedChar_eq high u hh hlow').symm, ?_⟩
      rw [hs, Piece.chars]
      simp
    · simp at h

theorem escape_sound {s rest : List Char} {c : Char} (h : escape s = .ok (c, rest)) :
    ∃ p : Piece, p.char = c ∧ '\\' :: s = p.chars ++ rest := by
  unfold escape at h
  split at h
  · simp at h
  · rename_i r
    split at h
    · simp at h
    · rename_i n after hn
      obtain ⟨u, rfl, hs⟩ := fourDigits_sound hn
      by_cases hlow : isLowSurrogate u.value = true
      · simp [hlow] at h
      · rw [if_neg hlow] at h
        by_cases hhigh : isHighSurrogate u.value = true
        · rw [if_pos hhigh] at h
          rw [hs]
          exact lowSurrogate_sound (by simpa [isHighSurrogate] using hhigh) h
        · rw [if_neg hhigh, Except.ok.injEq, Prod.mk.injEq] at h
          obtain ⟨rfl, rfl⟩ := h
          have hplain : u.value < 0xD800 ∨ 0xDFFF < u.value := by
            simp only [isLowSurrogate, isHighSurrogate, Bool.and_eq_true, decide_eq_true_eq,
              not_and, Nat.not_le] at hlow hhigh
            omega
          exact ⟨.unit u hplain, rfl, by rw [hs]; rfl⟩
  · rename_i l r _
    split at h
    · rename_i e he
      simp only [Except.ok.injEq, Prod.mk.injEq] at h
      obtain ⟨rfl, rfl⟩ := h
      exact ⟨.letter l e (mem_shortEscapes_iff.mpr he), rfl, rfl⟩
    · simp at h

theorem escape_letter {l c : Char} (h : (l, c) ∈ shortEscapes) (rest : List Char) :
    escape (l :: rest) = .ok (c, rest) := by
  have he := mem_shortEscapes_iff.mp h
  rw [escape, he]
  intro hu
  rw [hu] at he
  exact absurd he (by simp [escapedLetter?])

theorem escape_unit {u : CodeUnit} (h : u.value < 0xD800 ∨ 0xDFFF < u.value) (rest : List Char) :
    escape ('u' :: (u.digits ++ rest)) = .ok (Char.ofNat u.value, rest) := by
  have hlow : ¬ isLowSurrogate u.value = true := by
    simp only [isLowSurrogate, Bool.and_eq_true, decide_eq_true_eq]
    omega
  have hhigh : ¬ isHighSurrogate u.value = true := by
    simp only [isHighSurrogate, Bool.and_eq_true, decide_eq_true_eq]
    omega
  simp only [escape, fourDigits_complete, if_neg hlow, if_neg hhigh]

theorem escape_pair {high low : CodeUnit} (hh : 0xD800 ≤ high.value ∧ high.value ≤ 0xDBFF)
    (hl : 0xDC00 ≤ low.value ∧ low.value ≤ 0xDFFF) (rest : List Char) :
    escape ('u' :: (high.digits ++ '\\' :: 'u' :: (low.digits ++ rest))) =
      .ok ((Piece.pair high low hh hl).char, rest) := by
  have hlow : ¬ isLowSurrogate high.value = true := by
    simp only [isLowSurrogate, Bool.and_eq_true, decide_eq_true_eq]
    omega
  have hhigh : isHighSurrogate high.value = true := by simpa [isHighSurrogate] using hh
  have hsecond : isLowSurrogate low.value = true := by simpa [isLowSurrogate] using hl
  simp only [escape, fourDigits_complete, if_neg hlow, if_pos hhigh, lowSurrogate, if_pos hsecond,
    pairedChar_eq high low hh hl]

/-! ### The characters of a string -/

theorem stringBody_escape {s after cs rest : List Char} {c : Char} (h : escape s = .ok (c, after))
    (hbody : stringBody after = .ok (cs, rest)) : stringBody ('\\' :: s) = .ok (c :: cs, rest) := by
  rw [stringBody]
  split
  · rename_i f hf
    rw [h] at hf
    exact absurd hf (by simp)
  · rename_i c' after' hc
    rw [h, Except.ok.injEq, Prod.mk.injEq] at hc
    obtain ⟨rfl, rfl⟩ := hc
    simp only [hbody]

theorem stringBody_plain {s cs rest : List Char} {c : Char}
    (h : 0x20 ≤ c.toNat ∧ c ≠ '"' ∧ c ≠ '\\') (hbody : stringBody s = .ok (cs, rest)) :
    stringBody (c :: s) = .ok (c :: cs, rest) := by
  obtain ⟨hcontrol, hquote, hback⟩ := h
  rw [stringBody, if_neg (Nat.not_lt.mpr hcontrol), hbody]
  · exact hquote
  · exact hback

/-- What is read as a string is made of pieces, up to a closing quote. -/
theorem stringBody_sound {s rest cs : List Char} (h : stringBody s = .ok (cs, rest)) :
    ∃ ps : List Piece, ps.map Piece.char = cs ∧ s = ps.flatMap Piece.chars ++ '"' :: rest := by
  fun_induction stringBody s generalizing cs rest with
  | case1 => simp at h
  | case2 r =>
      simp only [Except.ok.injEq, Prod.mk.injEq] at h
      obtain ⟨rfl, rfl⟩ := h
      exact ⟨[], rfl, rfl⟩
  | case3 => simp at h
  | case4 => simp at h
  | case5 r c after hescape _ cs' rest' hbody ih =>
      simp only [Except.ok.injEq, Prod.mk.injEq] at h
      obtain ⟨rfl, rfl⟩ := h
      obtain ⟨ps, rfl, hafter⟩ := ih hbody
      obtain ⟨p, rfl, hp⟩ := escape_sound hescape
      refine ⟨p :: ps, rfl, ?_⟩
      rw [hp, hafter]
      simp
  | case6 => simp at h
  | case7 => simp at h
  | case8 c r hquote hback hcontrol cs' rest' hbody ih =>
      simp only [Except.ok.injEq, Prod.mk.injEq] at h
      obtain ⟨rfl, rfl⟩ := h
      obtain ⟨ps, rfl, hr⟩ := ih hbody
      refine ⟨.plain c ⟨Nat.not_lt.mp hcontrol, hquote, hback⟩ :: ps, rfl, ?_⟩
      rw [hr]
      rfl

/-- One piece is read as the character that it means. -/
theorem stringBody_piece (p : Piece) {s cs rest : List Char}
    (hbody : stringBody s = .ok (cs, rest)) :
    stringBody (p.chars ++ s) = .ok (p.char :: cs, rest) := by
  cases p with
  | plain c h => exact stringBody_plain h hbody
  | letter l c h => exact stringBody_escape (escape_letter h s) hbody
  | unit u h => exact stringBody_escape (escape_unit h s) hbody
  | pair high low hh hl =>
      have hescape := escape_pair hh hl s
      have hchars : (Piece.pair high low hh hl).chars ++ s =
          '\\' :: 'u' :: (high.digits ++ '\\' :: 'u' :: (low.digits ++ s)) := by
        simp [Piece.chars]
      rw [hchars]
      exact stringBody_escape hescape hbody

/-- Pieces and a closing quote are read as the characters that the pieces mean. -/
theorem stringBody_complete (ps : List Piece) (rest : List Char) :
    stringBody (ps.flatMap Piece.chars ++ '"' :: rest) = .ok (ps.map Piece.char, rest) := by
  induction ps with
  | nil => simp [stringBody]
  | cons p ps ih =>
      rw [List.flatMap_cons, List.append_assoc]
      exact stringBody_piece p ih

end HttpGet.Json
