/-
Encodings, and the segments that are read.

The encoding of a character spreads its code point over a lead byte and so many trailing bytes, six
bits in each of them.  What a lead byte announces is just what makes a code point of them: the
narrowed ranges of the second byte keep out the code points that fewer bytes could hold, the
surrogates, and everything beyond the last plane.  So a segment is a character exactly where the
bytes of that character stand, and which bytes these are is told by the encoder alone.

A segment that is no character stops before the first byte that cannot go on.  Up to there the bytes
are the beginning of some character, which shows when the lowest byte that may follow is put in.
-/
import Mathlib.Algebra.Group.Nat.Defs
import Mathlib.Tactic.SplitIfs
import HttpGet.Text.Utf8

namespace HttpGet.Utf8

/-! ### Trailing bytes -/

/-- The last `n` bytes of the encoding of a code point. -/
def trailing : Nat → Nat → List UInt8
  | 0, _ => []
  | n + 1, code => UInt8.ofNat (code / 0x40 ^ n % 0x40 + 0x80) :: trailing n code

theorem toNat_trailing (n code : Nat) :
    (UInt8.ofNat (code / 0x40 ^ n % 0x40 + 0x80)).toNat = code / 0x40 ^ n % 0x40 + 0x80 :=
  UInt8.toNat_ofNat_of_lt' (show _ < 0x100 by omega)

theorem mem_trailing {n code : Nat} {b : UInt8} (h : b ∈ trailing n code) :
    0x80 ≤ b.toNat ∧ b.toNat < 0xC0 := by
  induction n with
  | zero => exact absurd h List.not_mem_nil
  | succ n ih =>
      rcases List.mem_cons.mp h with heq | h
      · rw [heq, toNat_trailing]
        omega
      · exact ih h

/-- Whether the first of some bytes, if there is one, is in a range. -/
def HeadIn (low high : UInt8) (bytes : List UInt8) : Prop :=
  ∀ b ∈ bytes.head?, low ≤ b ∧ b ≤ high

theorem headIn_trailing (n code : Nat) : HeadIn 0x80 0xBF (trailing n code) := by
  intro b hb
  have h := mem_trailing (List.mem_of_mem_head? hb)
  simp only [UInt8.le_iff_toNat_le, UInt8.reduceToNat]
  omega

theorem headIn_trailing_succ {n code : Nat} {low high : UInt8} :
    HeadIn low high (trailing (n + 1) code) ↔
      low.toNat ≤ code / 0x40 ^ n % 0x40 + 0x80 ∧ code / 0x40 ^ n % 0x40 + 0x80 ≤ high.toNat := by
  simp only [HeadIn, trailing, List.head?_cons, Option.mem_some_iff, forall_eq',
    UInt8.le_iff_toNat_le, toNat_trailing]

/-- The trailing bytes of a code point are read, and no others, if the first is in its range. -/
theorem continuation_eq_some_iff {n code m : Nat} {low high : UInt8} (hlow : 0x80 ≤ low.toNat)
    (hhigh : high.toNat ≤ 0xBF) {s rest : List UInt8} :
    continuation n code low high s = (some m, rest) ↔
      m / 0x40 ^ n = code ∧ HeadIn low high (trailing n m) ∧ s = trailing n m ++ rest := by
  induction n generalizing code low high s with
  | zero =>
      have hhead : HeadIn low high (trailing 0 m) := fun b hb => absurd hb (by simp [trailing])
      simp only [continuation, trailing, Prod.mk.injEq, Option.some.injEq, Nat.pow_zero,
        Nat.div_one, List.nil_append] at hhead ⊢
      exact ⟨fun h => ⟨h.1.symm, hhead, h.2⟩, fun h => ⟨h.1.symm, h.2.2⟩⟩
  | succ n ih =>
      have hdigit := toNat_trailing n m
      have hplace : m / 0x40 ^ (n + 1) = m / 0x40 ^ n / 0x40 := by
        rw [Nat.pow_succ, Nat.div_div_eq_div_mul]
      rw [trailing, hplace]
      generalize UInt8.ofNat (m / 0x40 ^ n % 0x40 + 0x80) = digit at hdigit ⊢
      have hhead : HeadIn low high (digit :: trailing n m) ↔ low ≤ digit ∧ digit ≤ high := by
        simp [HeadIn]
      rw [hhead]
      cases s with
      | nil => simp [continuation]
      | cons b s =>
          rw [continuation, List.cons_append, List.cons.injEq]
          by_cases hb : low ≤ b ∧ b ≤ high
          · have hbytes := hb
            simp only [UInt8.le_iff_toNat_le] at hbytes
            rw [if_pos (by simpa using hb), ih (by decide) (by decide)]
            constructor
            · rintro ⟨hcode, -, hs⟩
              obtain rfl : b = digit := UInt8.toNat_inj.mp (by omega)
              exact ⟨by omega, hb, rfl, hs⟩
            · rintro ⟨hcode, -, rfl, hs⟩
              exact ⟨by omega, headIn_trailing n m, hs⟩
          · rw [if_neg (by simpa using hb)]
            simp only [Prod.mk.injEq, reduceCtorEq, false_and, false_iff]
            rintro ⟨-, hdigit, rfl, -⟩
            exact hb hdigit

/-! ### Layouts -/

/-- How a code point is spread over a lead byte and so many trailing bytes. -/
inductive Layout : UInt8 → Nat → Nat → Prop
  | one {b : UInt8} {code : Nat} (h : code < 0x80) (hb : b.toNat = code) : Layout b 0 code
  | two {b : UInt8} {code : Nat} (h : 0x80 ≤ code ∧ code < 0x800)
      (hb : b.toNat = code / 0x40 + 0xC0) : Layout b 1 code
  | three {b : UInt8} {code : Nat} (h : 0x800 ≤ code ∧ code < 0x10000)
      (hb : b.toNat = code / 0x1000 + 0xE0) : Layout b 2 code
  | four {b : UInt8} {code : Nat} (h : 0x10000 ≤ code ∧ code < 0x110000)
      (hb : b.toNat = code / 0x40000 + 0xF0) : Layout b 3 code

/-- No lead byte is a trailing byte. -/
theorem Layout.lead {b : UInt8} {n code : Nat} (h : Layout b n code) :
    b.toNat < 0x80 ∨ 0xC0 ≤ b.toNat := by
  cases h with
  | one h hb => omega
  | two h hb => omega
  | three h hb => omega
  | four h hb => omega

theorem exists_layout (c : Char) : ∃ b n, Layout b n c.toNat := by
  have hvalid : c.toNat < 0x110000 := by
    rcases c.valid with h | h
    · exact Nat.lt_trans h (by decide)
    · exact h.2
  have byte : ∀ k < 0x100, (UInt8.ofNat k).toNat = k := fun k hk => UInt8.toNat_ofNat_of_lt' hk
  by_cases h1 : c.toNat < 0x80
  · exact ⟨_, 0, .one h1 (byte _ (by omega))⟩
  by_cases h2 : c.toNat < 0x800
  · exact ⟨_, 1, .two (by omega) (byte _ (by omega))⟩
  by_cases h3 : c.toNat < 0x10000
  · exact ⟨_, 2, .three (by omega) (byte _ (by omega))⟩
  · exact ⟨_, 3, .four (by omega) (byte _ (by omega))⟩

theorem toNat_ofNat {code : Nat} (h : code.isValidChar) : (Char.ofNat code).toNat = code := by
  rw [Char.ofNat, dif_pos h]
  rfl

/-- The encoding of a character follows the layout of its code point. -/
theorem encode_of_layout {c : Char} {b : UInt8} {n : Nat} (h : Layout b n c.toNat) :
    String.utf8EncodeChar c = b :: trailing n c.toNat := by
  have lead : ∀ k, b.toNat = k → UInt8.ofNat k = b := by
    intro k hk
    rw [← hk, UInt8.ofNat_toNat]
  have hcode : c.val.toNat = c.toNat := rfl
  unfold String.utf8EncodeChar
  simp only [hcode]
  cases h with
  | one h hb =>
      rw [if_pos (by omega), lead _ hb]
      rfl
  | two h hb =>
      rw [if_neg (by omega), if_pos (by omega), lead _ (by omega)]
      simp only [trailing, Nat.pow_zero, Nat.div_one]
  | three h hb =>
      rw [if_neg (by omega), if_neg (by omega), if_pos (by omega), lead _ (by omega)]
      simp only [trailing, Nat.pow_zero, Nat.div_one, Nat.pow_one]
  | four h hb =>
      rw [if_neg (by omega), if_neg (by omega), if_neg (by omega), lead _ (by omega)]
      simp only [trailing, Nat.pow_zero, Nat.div_one, Nat.pow_one, Nat.reducePow]

theorem encode_eq_cons_iff {c : Char} {b : UInt8} {s : List UInt8} :
    String.utf8EncodeChar c = b :: s ↔ ∃ n, Layout b n c.toNat ∧ s = trailing n c.toNat := by
  constructor
  · intro h
    obtain ⟨b', n, hlayout⟩ := exists_layout c
    rw [encode_of_layout hlayout, List.cons.injEq] at h
    obtain ⟨rfl, rfl⟩ := h
    exact ⟨n, hlayout, rfl⟩
  · rintro ⟨n, hlayout, rfl⟩
    exact encode_of_layout hlayout

theorem exists_encode_eq_cons (c : Char) : ∃ b s, String.utf8EncodeChar c = b :: s := by
  obtain ⟨b, n, hlayout⟩ := exists_layout c
  exact ⟨b, _, encode_of_layout hlayout⟩

/-- An ASCII character is one byte. -/
theorem encode_of_lt {c : Char} (h : c.toNat < 0x80) :
    String.utf8EncodeChar c = [UInt8.ofNat c.toNat] :=
  encode_of_layout (.one h (UInt8.toNat_ofNat_of_lt' (Nat.lt_trans h (by decide))))

/-- The bytes of a character beyond ASCII are no ASCII bytes. -/
theorem le_of_mem_encode {c : Char} (h : 0x80 ≤ c.toNat) {b : UInt8}
    (hb : b ∈ String.utf8EncodeChar c) : 0x80 ≤ b.toNat := by
  obtain ⟨lead, n, hlayout⟩ := exists_layout c
  rw [encode_of_layout hlayout] at hb
  rcases List.mem_cons.mp hb with rfl | hb
  · cases hlayout with
    | one hcode _ => omega
    | two _ hlead => omega
    | three _ hlead => omega
    | four _ hlead => omega
  · exact (mem_trailing hb).1

/-! ### Lead bytes -/

/-- Whether a code point is made up of a lead byte and trailing bytes as that announces them. -/
def Lead.Announces (l : Lead) (code : Nat) : Prop :=
  code / 0x40 ^ l.following = l.payload ∧ HeadIn l.low l.high (trailing l.following code)

theorem Lead.announces_succ {l : Lead} {n code : Nat} (h : l.following = n + 1) :
    l.Announces code ↔ code / 0x40 ^ (n + 1) = l.payload ∧
      l.low.toNat ≤ code / 0x40 ^ n % 0x40 + 0x80 ∧
        code / 0x40 ^ n % 0x40 + 0x80 ≤ l.high.toNat := by
  rw [Announces, h, headIn_trailing_succ]

/-- The lead bytes by how many bytes follow.  Four of them narrow the range of the second byte. -/
theorem lead?_eq (b : UInt8) : lead? b =
    if b.toNat < 0x80 then some ⟨b.toNat, 0x80, 0xBF, 0⟩
    else if b.toNat < 0xC2 then none
    else if b.toNat < 0xE0 then some ⟨b.toNat % 0x20, 0x80, 0xBF, 1⟩
    else if b.toNat < 0xF0 then
      some ⟨b.toNat % 0x10, if b.toNat = 0xE0 then 0xA0 else 0x80,
        if b.toNat = 0xED then 0x9F else 0xBF, 2⟩
    else if b.toNat < 0xF5 then
      some ⟨b.toNat % 8, if b.toNat = 0xF0 then 0x90 else 0x80,
        if b.toNat = 0xF4 then 0x8F else 0xBF, 3⟩
    else none := by
  have h : lead? b =
      if b.toNat < 0x80 then some ⟨b.toNat, 0x80, 0xBF, 0⟩
      else if b.toNat < 0xC2 then none
      else if b.toNat < 0xE0 then some ⟨b.toNat % 0x20, 0x80, 0xBF, 1⟩
      else if b.toNat = 0xE0 then some ⟨0, 0xA0, 0xBF, 2⟩
      else if b.toNat = 0xED then some ⟨0xD, 0x80, 0x9F, 2⟩
      else if b.toNat < 0xF0 then some ⟨b.toNat % 0x10, 0x80, 0xBF, 2⟩
      else if b.toNat = 0xF0 then some ⟨0, 0x90, 0xBF, 3⟩
      else if b.toNat < 0xF4 then some ⟨b.toNat % 8, 0x80, 0xBF, 3⟩
      else if b.toNat = 0xF4 then some ⟨4, 0x80, 0x8F, 3⟩
      else none := by
    simp only [lead?, UInt8.lt_iff_toNat_lt, ← UInt8.toNat_inj, UInt8.reduceToNat]
  rw [h]
  grind

theorem lead?_range {b : UInt8} {l : Lead} (h : lead? b = some l) :
    0x80 ≤ l.low.toNat ∧ l.low ≤ l.high ∧ l.high.toNat ≤ 0xBF := by
  unfold lead? at h
  split_ifs at h <;> cases h <;> dsimp only <;> decide

/-- The lead byte of a layout announces its code point, if that is a character. -/
theorem Layout.announced {b : UInt8} {n code : Nat} (h : Layout b n code) (hvalid : code.isValidChar) :
    ∃ l, lead? b = some l ∧ l.following = n ∧ l.Announces code := by
  rw [lead?_eq]
  cases h with
  | one h hb =>
      rw [if_pos (by omega)]
      refine ⟨_, rfl, rfl, ?_, ?_⟩
      · rw [Nat.pow_zero, Nat.div_one, hb]
      · exact fun x hx => absurd hx (by simp [trailing])
  | two h hb =>
      rw [if_neg (by omega), if_neg (by omega), if_pos (by omega)]
      refine ⟨_, rfl, rfl, (Lead.announces_succ rfl).mpr ?_⟩
      simp only [UInt8.reduceToNat]
      omega
  | three h hb =>
      rw [if_neg (by omega), if_neg (by omega), if_neg (by omega), if_pos (by omega)]
      refine ⟨_, rfl, rfl, (Lead.announces_succ rfl).mpr ?_⟩
      simp only [apply_ite UInt8.toNat, UInt8.reduceToNat]
      split <;> split <;> omega
  | four h hb =>
      rw [if_neg (by omega), if_neg (by omega), if_neg (by omega), if_neg (by omega),
        if_pos (by omega)]
      refine ⟨_, rfl, rfl, (Lead.announces_succ rfl).mpr ?_⟩
      simp only [apply_ite UInt8.toNat, UInt8.reduceToNat]
      split <;> split <;> omega

/-- What a lead byte announces is a character, and of the layout that it tells. -/
theorem Lead.Announces.layout {b : UInt8} {l : Lead} {code : Nat} (h : l.Announces code)
    (hl : lead? b = some l) : code.isValidChar ∧ Layout b l.following code := by
  rw [lead?_eq] at hl
  unfold Nat.isValidChar
  split at hl
  · cases hl
    obtain ⟨hcode, -⟩ := h
    dsimp only at hcode ⊢
    exact ⟨Or.inl (by omega), .one (by omega) (by omega)⟩
  split at hl
  · cases hl
  split at hl
  · cases hl
    have hbytes := (Lead.announces_succ rfl).mp h
    dsimp only at hbytes ⊢
    exact ⟨Or.inl (by omega), .two (by omega) (by omega)⟩
  split at hl
  · cases hl
    have hbytes := (Lead.announces_succ rfl).mp h
    simp only [apply_ite UInt8.toNat, UInt8.reduceToNat] at hbytes ⊢
    obtain ⟨hcode, hlow, hhigh⟩ := hbytes
    split at hlow <;> split at hhigh <;> exact ⟨by omega, .three (by omega) (by omega)⟩
  split at hl
  · cases hl
    have hbytes := (Lead.announces_succ rfl).mp h
    simp only [apply_ite UInt8.toNat, UInt8.reduceToNat] at hbytes ⊢
    obtain ⟨hcode, hlow, hhigh⟩ := hbytes
    split at hlow <;> split at hhigh <;> exact ⟨by omega, .four (by omega) (by omega)⟩
  · cases hl

/-! ### Segments -/

/-- **A segment is a character exactly where the bytes of that character stand.** -/
theorem segment_eq_some_iff {b : UInt8} {s rest : List UInt8} {code : Nat} :
    segment b s = (some code, rest) ↔
      ∃ c : Char, c.toNat = code ∧ b :: s = String.utf8EncodeChar c ++ rest := by
  have hread : segment b s = (some code, rest) ↔ ∃ l, lead? b = some l ∧ l.Announces code ∧
      s = trailing l.following code ++ rest := by
    unfold segment
    cases hl : lead? b with
    | none => simp
    | some l =>
        obtain ⟨hlow, -, hhigh⟩ := lead?_range hl
        simp only [continuation_eq_some_iff hlow hhigh, Option.some.injEq, exists_eq_left',
          Lead.Announces, and_assoc]
  rw [hread]
  constructor
  · rintro ⟨l, hl, hannounces, rfl⟩
    obtain ⟨hvalid, hlayout⟩ := hannounces.layout hl
    have hcode := toNat_ofNat hvalid
    refine ⟨Char.ofNat code, hcode, ?_⟩
    rw [← hcode] at hlayout
    rw [encode_of_layout hlayout, hcode, List.cons_append]
  · rintro ⟨c, rfl, h⟩
    obtain ⟨b', n, hlayout⟩ := exists_layout c
    rw [encode_of_layout hlayout, List.cons_append, List.cons.injEq] at h
    obtain ⟨rfl, rfl⟩ := h
    obtain ⟨l, hl, rfl, hannounces⟩ := hlayout.announced c.valid
    exact ⟨l, hl, hannounces, rfl⟩

/-- Some bytes always complete a code point. -/
theorem exists_continuation (n code : Nat) {low high : UInt8} (h : low ≤ high) :
    ∃ more m, continuation n code low high more = (some m, []) := by
  induction n generalizing code low high with
  | zero => exact ⟨[], code, rfl⟩
  | succ n ih =>
      obtain ⟨more, m, hmore⟩ :=
        ih (code * 0x40 + low.toNat % 0x40) (show (0x80 : UInt8) ≤ 0xBF by decide)
      refine ⟨low :: more, m, ?_⟩
      rw [continuation, if_pos (by simpa using h)]
      exact hmore

/-- Where reading trailing bytes breaks off, what was read could have gone on, but not with the
byte that stands there. -/
theorem continuation_eq_none {n code : Nat} {low high : UInt8} (hrange : low ≤ high)
    {s rest : List UInt8} (h : continuation n code low high s = (none, rest)) :
    ∃ part, s = part ++ rest ∧
      (∃ more m, continuation n code low high (part ++ more) = (some m, [])) ∧
      ∀ b, rest.head? = some b → ∀ more m unread,
        continuation n code low high (part ++ b :: more) ≠ (some m, unread) := by
  induction n generalizing code low high s with
  | zero => simp [continuation] at h
  | succ n ih =>
      cases s with
      | nil =>
          rw [continuation, Prod.mk.injEq] at h
          obtain ⟨-, rfl⟩ := h
          exact ⟨[], rfl, exists_continuation (n + 1) code hrange, by simp⟩
      | cons b s =>
          rw [continuation] at h
          by_cases hb : (low ≤ b && b ≤ high) = true
          · rw [if_pos hb] at h
            obtain ⟨part, rfl, ⟨more, m, hmore⟩, hstop⟩ := ih (by decide) h
            refine ⟨b :: part, rfl, ⟨more, m, ?_⟩, ?_⟩
            · rw [List.cons_append, continuation, if_pos hb, hmore]
            · intro b' hb' more m unread
              rw [List.cons_append, continuation, if_pos hb]
              exact hstop b' hb' more m unread
          · rw [if_neg hb, Prod.mk.injEq] at h
            obtain ⟨-, rfl⟩ := h
            refine ⟨[], rfl, exists_continuation (n + 1) code hrange, ?_⟩
            intro b' hb' more m unread
            rw [List.head?_cons, Option.some.injEq] at hb'
            rw [← hb', List.nil_append, continuation, if_neg hb]
            simp

/-- Bytes with which the encoding of some character begins. -/
def Begins (bytes : List UInt8) : Prop := ∃ c, bytes <+: String.utf8EncodeChar c

/-- A segment that is no character is the beginning of one, or a byte with which none begins; with
the byte that follows it no character begins. -/
theorem segment_eq_none {b : UInt8} {s rest : List UInt8} (h : segment b s = (none, rest)) :
    ∃ part, s = part ++ rest ∧ (Begins (b :: part) ∨ part = []) ∧
      ∀ more, more <+: b :: s → Begins more → more.length ≤ (b :: part).length := by
  -- a longer beginning would make a character of the bytes up to where reading breaks off
  have longest : ∀ part, s = part ++ rest →
      (∀ b', rest.head? = some b' → ∀ more m unread,
        segment b (part ++ b' :: more) ≠ (some m, unread)) →
      ∀ more, more <+: b :: s → Begins more → more.length ≤ (b :: part).length := by
    rintro part rfl hstop more hmore ⟨c, hc⟩
    refine Nat.le_of_not_lt fun hlong => ?_
    have hpart : b :: part <+: more :=
      List.prefix_of_prefix_length_le ⟨rest, rfl⟩ hmore (Nat.le_of_lt hlong)
    obtain ⟨after, rfl⟩ := hpart
    have hafter : after <+: rest := by
      rwa [← List.cons_append, List.prefix_append_right_inj] at hmore
    cases after with
    | nil => simp at hlong
    | cons b' after =>
        obtain ⟨rest', rfl⟩ := hafter
        obtain ⟨unread, hunread⟩ := hc
        refine hstop b' rfl (after ++ unread) c.toNat [] (segment_eq_some_iff.mpr ⟨c, rfl, ?_⟩)
        rw [← hunread]
        simp
  unfold segment at h
  split at h
  · rename_i hl
    rw [Prod.mk.injEq] at h
    obtain ⟨-, rfl⟩ := h
    refine ⟨[], rfl, Or.inr rfl, longest [] rfl ?_⟩
    intro b' _ more m unread
    simp [segment, hl]
  · rename_i l hl
    obtain ⟨-, hrange, -⟩ := lead?_range hl
    obtain ⟨part, hs, ⟨more, m, hmore⟩, hstop⟩ := continuation_eq_none hrange h
    refine ⟨part, hs, Or.inl ?_, longest part hs ?_⟩
    · have hsegment : segment b (part ++ more) = (some m, []) := by simp only [segment, hl, hmore]
      obtain ⟨c, -, hc⟩ := segment_eq_some_iff.mp hsegment
      exact ⟨c, more, by rw [List.cons_append, hc, List.append_nil]⟩
    · intro b' hb' more m unread
      simp only [segment, hl]
      exact hstop b' hb' more m unread

end HttpGet.Utf8
