/-
The characters of a written value.

Numbers are written with digits, signs, a point and the letter of an exponent, so that neither a
quote nor a blank stands in them.  In a string a control character is never written as it is.
What is left of a compact text is punctuation: it has no character below U+0020 at all, and in
particular no line break.
-/
import HttpGet.Proofs.Integers
import HttpGet.Proofs.Json.Layout
import HttpGet.Proofs.Url.Cutting

namespace HttpGet.Json

/-- What holds of a list as soon as it holds of the items, and of an object as soon as it holds
of the values of the members, holds of every value that it holds of elsewhere. -/
@[elab_as_elim]
theorem induction {P : Json → Prop} (null : P .null) (flag : ∀ b, P (.flag b))
    (number : ∀ n, P (.number n)) (text : ∀ s, P (.text s))
    (array : ∀ items, (∀ v ∈ items, P v) → P (.array items))
    (object : ∀ members, (∀ m ∈ members, P m.2) → P (.object members)) (v : Json) : P v :=
  @Json.rec P (fun items => ∀ v ∈ items, P v) (fun members => ∀ m ∈ members, P m.2)
    (fun m => P m.2) null flag number text array object (by simp)
    (fun _ _ hv hvs => List.forall_mem_cons.mpr ⟨hv, hvs⟩) (by simp)
    (fun _ _ hm hms => List.forall_mem_cons.mpr ⟨hm, hms⟩) (fun _ _ hv => hv) v

/-! ### Numbers -/

/-- The characters that a number literal can have. -/
def isNumeric (c : Char) : Bool := c.isDigit || ['-', '+', '.', 'e', 'E'].contains c

theorem isNumeric_of_isDigit {c : Char} (h : c.isDigit = true) : isNumeric c = true := by
  rw [isNumeric, h, Bool.true_or]

theorem NumberLiteral.isNumeric_of_mem (l : NumberLiteral) : ∀ c ∈ l.chars, isNumeric c = true := by
  have hdigits : ∀ d : Digits, ∀ c ∈ d.chars, isNumeric c = true :=
    fun d c hc => isNumeric_of_isDigit (d.digit c hc)
  have hfraction : ∀ c ∈ fractionChars l.fraction, isNumeric c = true := by
    cases l.fraction with
    | none => simp [fractionChars]
    | some d => exact List.forall_mem_cons.mpr ⟨by decide, hdigits d⟩
  have hexponent : ∀ c ∈ exponentChars l.exponent, isNumeric c = true := by
    cases l.exponent with
    | none => simp [exponentChars]
    | some e =>
        refine List.forall_mem_cons.mpr ⟨?_, List.forall_mem_append.mpr ⟨?_, hdigits e.digits⟩⟩
        · rcases e.isLetter with h | h <;> rw [h] <;> decide
        · cases e.sign <;> exact forall_mem_of_all (by decide)
  have hsign : ∀ c ∈ if l.negative then ['-'] else [], isNumeric c = true := by
    cases l.negative <;> exact forall_mem_of_all (by decide)
  simp only [chars, List.forall_mem_append]
  exact ⟨⟨⟨hsign, hdigits l.whole⟩, hfraction⟩, hexponent⟩

/-- A number is written as a literal. -/
theorem exists_literal (x : Number) : ∃ l : NumberLiteral, x.write = l.chars := by
  cases x with
  | integer i => exact ⟨integerLiteral i.val, write_integer i⟩
  | real x =>
      obtain ⟨l, hwrite, -⟩ := exists_shows x
      exact ⟨l, hwrite⟩

theorem isNumeric_of_mem_write (x : Number) : ∀ c ∈ x.write, isNumeric c = true := by
  obtain ⟨l, hl⟩ := exists_literal x
  rw [hl]
  exact l.isNumeric_of_mem

/-- A character of a number is neither a control character nor a blank nor a quote. -/
theorem graphic_of_isNumeric {c : Char} (h : isNumeric c = true) : 0x20 < c.toNat ∧ c ≠ '"' := by
  simp only [isNumeric, Bool.or_eq_true, List.contains_iff_mem] at h
  rcases h with h | h
  · have hlow : '0' ≤ c := by
      simp only [Char.isDigit, Bool.and_eq_true, decide_eq_true_eq] at h
      exact h.1
    have hnat : 48 ≤ c.toNat := hlow
    refine ⟨by omega, ?_⟩
    rintro rfl
    exact absurd hnat (by decide)
  · exact forall_mem_of_all (p := fun c => 0x20 < c.toNat ∧ c ≠ '"') (by decide) c h

/-! ### Strings -/

/-- No control character is written into a string. -/
theorem le_toNat_of_mem_escapeChar (c : Char) : ∀ x ∈ escapeChar c, 0x20 ≤ x.toNat := by
  have hhex : ∀ n : Fin 16, 0x20 ≤ (hexDigit n.val).toNat := by decide
  unfold escapeChar
  repeat
    split
    · exact forall_mem_of_all (by decide)
  split
  · rename_i hc
    have hhigh := hhex ⟨c.toNat / 16, by omega⟩
    have hlow := hhex ⟨c.toNat % 16, by omega⟩
    simp only [List.forall_mem_cons]
    exact ⟨by decide, by decide, by decide, by decide, hhigh, hlow, by simp⟩
  · rename_i hc
    intro x hx
    rw [List.mem_singleton.mp hx]
    exact Nat.le_of_not_lt hc

theorem le_toNat_of_mem_quote (s : String) : ∀ c ∈ quote s, 0x20 ≤ c.toNat := by
  simp only [quote, List.forall_mem_append, List.forall_mem_cons]
  refine ⟨⟨by decide, fun x hx => ?_⟩, by decide, by simp⟩
  obtain ⟨c, -, hc⟩ := List.mem_flatMap.mp hx
  exact le_toNat_of_mem_escapeChar c x hc

/-! ### Lists of parts -/

/-- What holds of the characters of the parts, of the blanks and of the punctuation holds of the
characters of the list. -/
theorem forall_mem_laterParts {p : Char → Prop} {before after : List Char} {close : Char}
    {parts : List (List Char)} (hcomma : p ',') (hclose : p close) (hbefore : ∀ c ∈ before, p c)
    (hafter : ∀ c ∈ after, p c) (hparts : ∀ part ∈ parts, ∀ c ∈ part, p c) :
    ∀ c ∈ laterParts before after close parts, p c := by
  induction parts with
  | nil =>
      rw [laterParts, List.forall_mem_append]
      exact ⟨hafter, by simpa using hclose⟩
  | cons part parts ih =>
      obtain ⟨hpart, hrest⟩ := List.forall_mem_cons.mp hparts
      simp only [laterParts, List.forall_mem_append, List.forall_mem_cons]
      exact ⟨⟨⟨hcomma, hbefore⟩, hpart⟩, ih hrest⟩

/-- No control character stands in the compact text of a value. -/
theorem le_toNat_of_mem_compact (v : Json) : ∀ c ∈ compact v, 0x20 ≤ c.toNat := by
  have hlater : ∀ (close : Char) (parts : List (List Char)), 0x20 ≤ close.toNat →
      (∀ part ∈ parts, ∀ c ∈ part, 0x20 ≤ c.toNat) →
        ∀ c ∈ laterParts [] [] close parts, 0x20 ≤ c.toNat :=
    fun close parts hclose hparts =>
      forall_mem_laterParts (by decide) hclose (by simp) (by simp) hparts
  induction v using Json.induction with
  | null =>
      rw [compact]
      exact forall_mem_of_all (by decide)
  | flag b =>
      rw [compact]
      cases b <;> exact forall_mem_of_all (by decide)
  | number n =>
      rw [compact]
      exact fun c hc => (graphic_of_isNumeric (isNumeric_of_mem_write n c hc)).1.le
  | text s =>
      rw [compact]
      exact le_toNat_of_mem_quote s
  | array items ih =>
      cases items with
      | nil =>
          rw [compact]
          exact forall_mem_of_all (by decide)
      | cons v vs =>
          obtain ⟨hv, hvs⟩ := List.forall_mem_cons.mp ih
          simp only [compact, compactItems_eq, List.forall_mem_append, List.forall_mem_cons]
          exact ⟨⟨by decide, hv⟩, hlater _ _ (by decide) (List.forall_mem_map.mpr hvs)⟩
  | object members ih =>
      have hmember : ∀ m ∈ members, ∀ c ∈ compactMember m, 0x20 ≤ c.toNat := by
        intro m hm
        rw [compactMember, List.forall_mem_append, List.forall_mem_cons]
        exact ⟨le_toNat_of_mem_quote m.1, by decide, ih m hm⟩
      cases members with
      | nil =>
          rw [compact]
          exact forall_mem_of_all (by decide)
      | cons m ms =>
          obtain ⟨hm, hms⟩ := List.forall_mem_cons.mp hmember
          simp only [compact, compactMembers_eq, List.forall_mem_append, List.forall_mem_cons]
          exact ⟨⟨by decide, hm⟩, hlater _ _ (by decide) (List.forall_mem_map.mpr hms)⟩

end HttpGet.Json
