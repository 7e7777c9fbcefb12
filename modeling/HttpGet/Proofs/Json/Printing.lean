/-
What is written is derived.

A value without floating point numbers has a derivation whose text is its compact form, and
one whose text is its pretty form.  The two forms differ in blanks only: each puts some
before every item or member, and some before the closing bracket.  The closure lemmas of
`Written` take these blanks as arguments, so that either form needs nothing but its
equations.

As every value that the parser gives has its members in order, nothing is lost when they
are read again.
-/
import HttpGet.Json.Printer
import HttpGet.Proofs.Json.Acceptance
import HttpGet.Proofs.Pointwise

namespace HttpGet.Json

/-! ### Values without floating point numbers -/

/-- No floating point number occurs in a value. -/
inductive RealFree : Json → Prop
  | null : RealFree .null
  | flag (b : Bool) : RealFree (.flag b)
  | integer (i : ExactInt) : RealFree (.number (.integer i))
  | text (s : String) : RealFree (.text s)
  | array {items : List Json} (h : ∀ v ∈ items, RealFree v) : RealFree (.array items)
  | object {members : List (String × Json)} (h : ∀ m ∈ members, RealFree m.2) :
      RealFree (.object members)

/-- A value that is as good as written and read again, by a reader that may go `n` levels
down. -/
inductive Fits : Nat → Json → Prop
  | null {n : Nat} : Fits n .null
  | flag {n : Nat} (b : Bool) : Fits n (.flag b)
  | integer {n : Nat} (i : ExactInt) : Fits n (.number (.integer i))
  | text {n : Nat} (s : String) : Fits n (.text s)
  | array {n : Nat} {items : List Json} (h : ∀ v ∈ items, Fits n v) : Fits (n + 1) (.array items)
  | object {n : Nat} {members : List (String × Json)} (hk : keysIncrease members)
      (h : ∀ m ∈ members, Fits n m.2) : Fits (n + 1) (.object members)

/-- What the parser gives can be written and read again, if it has no floating point
numbers. -/
theorem Within.fits {n : Nat} {d : Derivation} {v : Json} (h : Within n d v) (hv : RealFree v) :
    Fits n v := by
  induction hv generalizing n d with
  | null => exact .null
  | flag b => exact .flag b
  | integer i => exact .integer i
  | text s => exact .text s
  | array _ ih =>
      cases d with
      | array gap items =>
          obtain ⟨m, vs, rfl, hvs, hitems⟩ := h.of_array
          obtain rfl := Json.array.inj hvs
          refine .array ?_
          intro v hv
          obtain ⟨d, -, hd⟩ := exists_left_of_forall₂ hitems hv
          exact ih v hv hd
      | _ => nomatch h.denotes
  | object _ ih =>
      cases d with
      | object gap members =>
          obtain ⟨m, kvs, ms, rfl, hms, last, hmembers⟩ := h.of_object
          obtain rfl := Json.object.inj hms
          refine .object last.increasing ?_
          intro kv hkv
          obtain ⟨before, after, rfl, -⟩ := (last.mem_iff kv).mp hkv
          obtain ⟨member, -, hmember⟩ := exists_left_of_forall₂ hmembers (b := kv) (by simp)
          exact ih kv hkv hmember.value
      | _ => nomatch h.denotes

/-! ### Texts of values -/

/-- A text of a value, with at most `n` lists and objects in each other. -/
def Written (n : Nat) (v : Json) (s : List Char) : Prop :=
  ∃ d : Derivation, d.chars = s ∧ Within n d v

/-- The number that decimal digits write is the number that they spell. -/
theorem decimal_toDigits (k : Nat) : decimal (Nat.toDigits 10 k) = k := by
  have h : Nat.ofDigitChars 10 (Nat.toDigits 10 k) 0 = k := Nat.ofDigitChars_ten_toDigits
  rw [Nat.ofDigitChars_eq_foldl] at h
  rw [decimal]
  refine Eq.trans ?_ h
  congr 1
  funext n c
  rw [digitValue]
  omega

/-- The digits of a number begin with a zero only if it is zero. -/
theorem toDigits_noLeadingZero {k : Nat} {rest : List Char} (h : Nat.toDigits 10 k = '0' :: rest) :
    rest = [] := by
  induction k using Nat.strongRecOn generalizing rest with
  | _ k ih =>
      by_cases hk : k < 10
      · rw [Nat.toDigits_of_lt_base hk] at h
        exact (List.cons.inj h).2.symm
      · have hhead : ∀ m < k, 0 < m → ∀ r, Nat.toDigits 10 m ≠ '0' :: r := by
          intro m hm hpos r hr
          obtain rfl := ih m hm hr
          have h0 := decimal_toDigits m
          rw [hr] at h0
          exact absurd h0.symm (Nat.ne_of_gt hpos)
        rw [Nat.toDigits_of_base_le (by decide) (Nat.le_of_not_lt hk)] at h
        cases hd : Nat.toDigits 10 (k / 10) with
        | nil => exact absurd hd Nat.toDigits_ne_nil
        | cons c cs =>
            rw [hd, List.cons_append] at h
            rw [(List.cons.inj h).1] at hd
            exact absurd hd (hhead (k / 10) (by omega) (by omega) cs)

/-- The literal of an integer, of any size. -/
def integerLiteral (n : Int) : NumberLiteral where
  negative := n < 0
  whole := {
    chars := Nat.toDigits 10 n.natAbs
    nonempty := Nat.toDigits_ne_nil
    digit := fun _ hc => Nat.isDigit_of_mem_toDigits (by decide) (by decide) hc }
  noLeadingZero := fun _ h => toDigits_noLeadingZero h
  fraction := none
  exponent := none

theorem signed_integerLiteral (n : Int) : (integerLiteral n).numeral.signed = n := by
  rw [Numeral.signed]
  show (if decide (n < 0) = true then -(decimal (Nat.toDigits 10 n.natAbs) : Int)
    else (decimal (Nat.toDigits 10 n.natAbs) : Int)) = n
  rw [decimal_toDigits]
  by_cases h : n < 0
  · rw [if_pos (decide_eq_true h)]
    omega
  · rw [if_neg (by simpa using h)]
    omega

/-- The literal of an integer is kept as one exactly if 64 bits hold it. -/
theorem isInteger_integerLiteral_iff {n : Int} :
    (integerLiteral n).numeral.IsInteger ↔ -0x8000000000000000 ≤ n ∧ n < 0x10000000000000000 := by
  have hsigned := signed_integerLiteral n
  constructor
  · intro h
    have hlower := h.lower
    have hupper := h.upper
    rw [hsigned] at hlower hupper
    exact ⟨hlower, hupper⟩
  · rintro ⟨hlower, hupper⟩
    refine ⟨rfl, rfl, by rwa [hsigned], by rwa [hsigned], ?_⟩
    intro hneg hzero
    have hlt : n < 0 := of_decide_eq_true hneg
    omega

theorem denotes_integerLiteral (i : ExactInt) :
    (integerLiteral i.val).numeral.Denotes (.integer i) :=
  .integer (isInteger_integerLiteral_iff.mpr ⟨i.lower, i.upper⟩) (signed_integerLiteral i.val).symm

/-- How a character is written is a way to write it. -/
theorem exists_piece (c : Char) : ∃ p : Piece, p.chars = escapeChar c ∧ p.char = c := by
  have letter : ∀ l, (l, c) ∈ shortEscapes → ∃ p : Piece, p.chars = ['\\', l] ∧ p.char = c :=
    fun l hl => ⟨.letter l c hl, rfl, rfl⟩
  unfold escapeChar
  split
  · rename_i hc
    exact letter '"' (by rw [hc]; decide)
  split
  · rename_i hc
    exact letter '\\' (by rw [hc]; decide)
  split
  · rename_i hc
    exact letter 'b' (by rw [hc]; decide)
  split
  · rename_i hc
    exact letter 'f' (by rw [hc]; decide)
  split
  · rename_i hc
    exact letter 'n' (by rw [hc]; decide)
  split
  · rename_i hc
    exact letter 'r' (by rw [hc]; decide)
  split
  · rename_i hc
    exact letter 't' (by rw [hc]; decide)
  split
  · rename_i hc
    have hspelled : hexNumber? ['0', '0', hexDigit (c.toNat / 16), hexDigit (c.toNat % 16)] =
        some c.toNat := by
      have hzero : hexValue? '0' = some 0 := by decide
      simp only [hexNumber?, List.foldl_cons, List.foldl_nil, Option.bind_some, Option.map_some,
        hzero, hexValue?_hexDigit (show c.toNat / 16 < 16 by omega),
        hexValue?_hexDigit (show c.toNat % 16 < 16 by omega), Option.some.injEq]
      omega
    refine ⟨.unit ⟨_, rfl, c.toNat, hspelled⟩ (Or.inl (by simp only; omega)), rfl, ?_⟩
    exact Char.ofNat_toNat c
  · rename_i hquote hbackslash _ _ _ _ _ hcontrol
    exact ⟨.plain c ⟨Nat.le_of_not_lt hcontrol, hquote, hbackslash⟩, rfl, rfl⟩

theorem exists_pieces (s : String) : ∃ ps : List Piece, literal ps = quote s ∧ unescaped ps = s := by
  have h : ∀ cs : List Char, ∃ ps : List Piece,
      ps.flatMap Piece.chars = cs.flatMap escapeChar ∧ ps.map Piece.char = cs := by
    intro cs
    induction cs with
    | nil => exact ⟨[], rfl, rfl⟩
    | cons c cs ih =>
        obtain ⟨p, hp, hpc⟩ := exists_piece c
        obtain ⟨ps, hps, hpsc⟩ := ih
        exact ⟨p :: ps, by rw [List.flatMap_cons, List.flatMap_cons, hp, hps],
          by rw [List.map_cons, hpc, hpsc]⟩
  obtain ⟨ps, hps, hpsc⟩ := h s.toList
  exact ⟨ps, by rw [literal, quote, hps], by rw [unescaped, hpsc, String.ofList_toList]⟩

/-! ### Lists of parts -/

/-- The parts after the first, each with blanks before it, and the end. -/
def laterParts (before after : List Char) (close : Char) : List (List Char) → List Char
  | [] => after ++ [close]
  | part :: parts => ',' :: before ++ part ++ laterParts before after close parts

/-- Parts with blanks before them and blanks before the end are padded parts: the blanks
before a comma or the end come after the part that precedes it. -/
theorem laterParts_eq {α β : Type} (chars : α → List Char) (write : β → List Char)
    (R : α → β → Prop) (before after : Gap) (close : Char) {bs : List β}
    (h : ∀ b ∈ bs, ∀ gap : Gap, ∃ a, chars a = before.chars ++ write b ++ gap.chars ∧ R a b) :
    ∃ (gap : Gap) (as : List α), List.Forall₂ R as bs ∧
      laterParts before.chars after.chars close (bs.map write) =
        gap.chars ++ (listed false (as.map chars) ++ [close]) := by
  induction bs with
  | nil => exact ⟨after, [], .nil, rfl⟩
  | cons b bs ih =>
      obtain ⟨gap, as, has, hchars⟩ := ih fun b' hb' => h b' (by simp [hb'])
      obtain ⟨a, ha, hR⟩ := h b (by simp) gap
      refine ⟨.none, a :: as, .cons hR has, ?_⟩
      rw [List.map_cons, laterParts, hchars, List.map_cons, listed, ha]
      simp [comma]

/-- The same for all parts, the first of which comes without a comma. -/
theorem parts_eq {α β : Type} (chars : α → List Char) (write : β → List Char)
    (R : α → β → Prop) (before after : Gap) (close : Char) {b : β} {bs : List β}
    (h : ∀ b' ∈ b :: bs, ∀ gap : Gap, ∃ a, chars a = before.chars ++ write b' ++ gap.chars ∧ R a b') :
    ∃ as : List α, List.Forall₂ R as (b :: bs) ∧
      before.chars ++ write b ++ laterParts before.chars after.chars close (bs.map write) =
        listed true (as.map chars) ++ [close] := by
  obtain ⟨gap, as, has, hchars⟩ := laterParts_eq chars write R before after close
    fun b' hb' => h b' (List.mem_cons_of_mem b hb')
  obtain ⟨a, ha, hR⟩ := h b (by simp) gap
  refine ⟨a :: as, .cons hR has, ?_⟩
  rw [hchars, List.map_cons, listed, ha]
  simp [comma]

/-- A key with its value, and blanks between the colon and the value. -/
def memberText (colon : Gap) (write : Json → List Char) (m : String × Json) : List Char :=
  quote m.1 ++ ':' :: (colon.chars ++ write m.2)

namespace Derivation

/-- Written items with blanks before each and before the end are a list. -/
theorem exists_array {α : Type} {P : Derivation → α → Prop} (before after : Gap)
    {write : α → List Char} {a : α} {as : List α}
    (h : ∀ b ∈ a :: as, ∃ d : Derivation, d.chars = write b ∧ P d b) :
    ∃ items : List (Padded Derivation), List.Forall₂ P (items.map Padded.core) (a :: as) ∧
      (array .none items).chars = '[' :: before.chars ++ write a ++
        laterParts before.chars after.chars ']' (as.map write) := by
  have hpart : ∀ b ∈ a :: as, ∀ gap : Gap, ∃ i : Padded Derivation,
      itemChars i = before.chars ++ write b ++ gap.chars ∧ P i.core b := by
    intro b hb gap
    obtain ⟨d, hd, hb⟩ := h b hb
    exact ⟨⟨before, d, gap⟩, by rw [itemChars, Padded.chars, hd], hb⟩
  obtain ⟨items, hitems, hchars⟩ :=
    parts_eq itemChars write (fun i b => P i.core b) before after ']' hpart
  refine ⟨items, List.forall₂_map_left_iff.mpr hitems, ?_⟩
  rw [chars_array, joinWith_eq_listed]
  simp only [Gap.chars_none, List.cons_append, List.nil_append, ← hchars]

/-- Written members with blanks before each, after the colons and before the end are an
object. -/
theorem exists_object {P : Derivation → Json → Prop} (before colon after : Gap)
    {write : Json → List Char} {m : String × Json} {ms : List (String × Json)}
    (h : ∀ m' ∈ m :: ms, ∃ d : Derivation, d.chars = write m'.2 ∧ P d m'.2) :
    ∃ members : List (Padded (List Piece) × Padded Derivation),
      List.Forall₂ (MemberOf P) members (m :: ms) ∧
      (object .none members).chars = '{' :: before.chars ++ memberText colon write m ++
        laterParts before.chars after.chars '}' (ms.map (memberText colon write)) := by
  have hpart : ∀ m' ∈ m :: ms, ∀ gap : Gap, ∃ member : Padded (List Piece) × Padded Derivation,
      memberChars member = before.chars ++ memberText colon write m' ++ gap.chars ∧
        MemberOf P member m' := by
    intro m' hm' gap
    obtain ⟨d, hd, hv⟩ := h m' hm'
    obtain ⟨ps, hps, hkey⟩ := exists_pieces m'.1
    refine ⟨(⟨before, ps, .none⟩, ⟨colon, d, gap⟩), ?_, hkey, hv⟩
    rw [memberChars, Padded.chars, Padded.chars, memberText, hd, hps]
    simp
  obtain ⟨members, hmembers, hchars⟩ := parts_eq memberChars (memberText colon write)
    (MemberOf P) before after '}' hpart
  refine ⟨members, hmembers, ?_⟩
  rw [chars_object, joinWith_eq_listed]
  simp only [Gap.chars_none, List.cons_append, List.nil_append, ← hchars]

end Derivation

namespace Written

variable {n : Nat}

theorem null : Written n .null "null".toList :=
  ⟨.null, by rw [Derivation.chars], by rw [Derivation.depth]; omega, .null⟩

theorem flag (b : Bool) : Written n (.flag b) (flagWord b) :=
  ⟨.flag b, by rw [Derivation.chars, flagWord], by rw [Derivation.depth]; omega, .flag b⟩

theorem integer (i : ExactInt) : Written n (.number (.integer i)) (Number.integer i).write := by
  refine ⟨.number (integerLiteral i.val), ?_, by rw [Derivation.depth]; omega,
    .number (denotes_integerLiteral i)⟩
  rw [Derivation.chars, NumberLiteral.chars, Number.write]
  simp [integerLiteral, NumberLiteral.fractionChars, NumberLiteral.exponentChars]

theorem text (s : String) : Written n (.text s) (quote s) := by
  obtain ⟨ps, hps, rfl⟩ := exists_pieces s
  exact ⟨.text ps, by rw [Derivation.chars, hps], by rw [Derivation.depth]; omega, .text ps⟩

theorem array_nil : Written (n + 1) (.array []) ['[', ']'] := by
  refine ⟨.array .none [], ?_, Within.array .nil⟩
  rw [Derivation.chars_array]
  rfl

theorem array_cons (before after : Gap) {write : Json → List Char} {v : Json} {vs : List Json}
    (h : ∀ u ∈ v :: vs, Written n u (write u)) :
    Written (n + 1) (.array (v :: vs)) ('[' :: before.chars ++ write v ++
      laterParts before.chars after.chars ']' (vs.map write)) := by
  obtain ⟨items, hitems, hchars⟩ := Derivation.exists_array before after h
  exact ⟨.array .none items, hchars, Within.array hitems⟩

theorem object_nil : Written (n + 1) (.object []) ['{', '}'] := by
  refine ⟨.object .none [], ?_, Within.object .nil .nil⟩
  rw [Derivation.chars_object]
  rfl

theorem object_cons (before colon after : Gap) {write : Json → List Char} {m : String × Json}
    {ms : List (String × Json)} (hk : keysIncrease (m :: ms))
    (h : ∀ m' ∈ m :: ms, Written n m'.2 (write m'.2)) :
    Written (n + 1) (.object (m :: ms)) ('{' :: before.chars ++ memberText colon write m ++
      laterParts before.chars after.chars '}' (ms.map (memberText colon write))) := by
  obtain ⟨members, hmembers, hchars⟩ := Derivation.exists_object before colon after h
  exact ⟨.object .none members, hchars, Within.object hmembers (ObjectOf.self hk)⟩

end Written

/-! ### The compact form -/

theorem compactItems_eq (vs : List Json) :
    compactItems vs = laterParts [] [] ']' (vs.map compact) := by
  induction vs with
  | nil => rfl
  | cons v vs ih =>
      rw [compactItems, ih, List.map_cons, laterParts]
      rfl

theorem compactMembers_eq (ms : List (String × Json)) :
    compactMembers ms = laterParts [] [] '}' (ms.map compactMember) := by
  induction ms with
  | nil => rfl
  | cons m ms ih =>
      rw [compactMembers, ih, List.map_cons, laterParts]
      rfl

theorem compactMember_eq (m : String × Json) :
    compactMember m = memberText .none compact m := by
  rw [compactMember]
  rfl

/-- The compact form of a value is a text of it. -/
theorem written_compact {n : Nat} {v : Json} (h : Fits n v) : Written n v (compact v) := by
  induction h with
  | null => exact .null
  | flag b => exact .flag b
  | integer i => exact .integer i
  | text s => exact .text s
  | @array n items _ ih =>
      cases items with
      | nil => exact .array_nil
      | cons v vs =>
          rw [compact, compactItems_eq]
          exact .array_cons .none .none ih
  | @object n members hk _ ih =>
      cases members with
      | nil => exact .object_nil
      | cons m ms =>
          rw [compact, compactMembers_eq, funext compactMember_eq]
          exact .object_cons .none .none .none hk ih

/-! ### The pretty form -/

/-- A line break and an indentation are blanks. -/
def lineGap (level : Nat) : Gap where
  chars := newLine level
  blank := by
    intro c hc
    rcases List.mem_cons.mp hc with rfl | hc
    · exact Or.inr (Or.inr (Or.inl rfl))
    · exact Or.inl (List.eq_of_mem_replicate hc)

/-- A blank after a colon. -/
def colonGap : Gap := ⟨[' '], by simp⟩

theorem prettyItems_eq (level : Nat) (vs : List Json) :
    prettyItems level vs =
      laterParts (newLine (level + 1)) (newLine level) ']' (vs.map (pretty (level + 1))) := by
  induction vs with
  | nil => rfl
  | cons v vs ih => rw [prettyItems, ih, List.map_cons, laterParts]

theorem prettyMembers_eq (level : Nat) (ms : List (String × Json)) :
    prettyMembers level ms =
      laterParts (newLine (level + 1)) (newLine level) '}' (ms.map (prettyMember (level + 1))) := by
  induction ms with
  | nil => rfl
  | cons m ms ih => rw [prettyMembers, ih, List.map_cons, laterParts]

theorem prettyMember_eq (level : Nat) (m : String × Json) :
    prettyMember level m = memberText colonGap (pretty level) m := by
  rw [prettyMember]
  rfl

/-- The pretty form of a value is a text of it, at every level. -/
theorem written_pretty {n : Nat} {v : Json} (h : Fits n v) (level : Nat) :
    Written n v (pretty level v) := by
  induction h generalizing level with
  | null => exact .null
  | flag b => exact .flag b
  | integer i => exact .integer i
  | text s => exact .text s
  | @array n items _ ih =>
      cases items with
      | nil => exact .array_nil
      | cons v vs =>
          rw [pretty, prettyItems_eq]
          exact .array_cons (lineGap (level + 1)) (lineGap level) fun u hu => ih u hu (level + 1)
  | @object n members hk _ ih =>
      cases members with
      | nil => exact .object_nil
      | cons m ms =>
          rw [pretty, prettyMembers_eq, funext (prettyMember_eq (level + 1))]
          exact .object_cons (lineGap (level + 1)) colonGap (lineGap level) hk
            fun m' hm' => ih m' hm' (level + 1)

/-! ### Reading again -/

/-- A text of a value spells it. -/
theorem Written.spells {v : Json} {s : List Char} (h : Written 127 v s) :
    Spells (String.ofList s) v := by
  obtain ⟨d, rfl, hd⟩ := h
  refine ⟨⟨.none, d, .none⟩, ?_, hd.depth, hd.denotes⟩
  rw [String.toList_ofList, Padded.chars]
  simp

/-- What is spelled fits, except for floating point numbers. -/
theorem Spells.fits {text : String} {v : Json} (h : Spells text v) (hv : RealFree v) :
    Fits 127 v := by
  obtain ⟨d, -, hdepth, hdenotes⟩ := h
  exact Within.fits ⟨hdepth, hdenotes⟩ hv

end HttpGet.Json
