/-
Strings and numbers that are cut short.

A text is read, and then its end is cut off: what does the reader make of the first part?
`Shortened` says what there is to expect.  A reader that sees where it has to end, at a quote or
after the last letter of a word, reads the same as long as the cut lies behind that, and runs out
otherwise.  A number does not show where it ends, and what is left of it may be another number, or
one that is too large as long as its exponent is missing.

Readers follow one another, and so do their first parts: `Shortened.andThen` is the step for all of
them.  For that each reader is first written as `andThen` of the readers it calls.
-/
import HttpGet.Proofs.Json.NumberLiteral
import HttpGet.Proofs.Json.StringLiteral

namespace HttpGet.Json

/-! ### Scans of a first part -/

/-- Whether a cause says that a text ends too early.  A number may only be too large as long as
its exponent is cut off. -/
def Cause.ofTruncation : Cause → Bool
  | endInValue | endInList | endInObject | endInString | numberOutOfRange => true
  | _ => false

/-- What a scan of the first part of a text may be if `t` is cut off.  Where the scan of the whole
text is refused nothing is said.  Otherwise the scan is the same; or it goes to the end and gives
something that stands in a relation to what the whole gives; or it fails at the end, because the
text ends there. -/
inductive Shortened {α : Type} (R : α → α → Prop) (t : List Char) : Scan α → Scan α → Prop
  | refused (f : Failure) (part : Scan α) : Shortened R t (.error f) part
  | same (v : α) (r : List Char) : Shortened R t (.ok (v, r ++ t)) (.ok (v, r))
  | less {v v' : α} (rest : List Char) (h : R v v') : Shortened R t (.ok (v, rest)) (.ok (v', []))
  | out {cause : Cause} (whole : Scan α) (h : cause.ofTruncation = true) :
      Shortened R t whole (.error (.here cause []))

/-- The relation between no values. -/
def Never {α : Type} (_ _ : α) : Prop := False

/-- The relation between any values. -/
def Ever {α : Type} (_ _ : α) : Prop := True

/-- What a reader reads of the first part of a text is what it reads of the whole, up to `R`. -/
def Shortens {α : Type} (R : α → α → Prop) (reader : List Char → Scan α) : Prop :=
  ∀ s t : List Char, Shortened R t (reader (s ++ t)) (reader s)

/-- A reader that sees where to end reads the same of a first part, or it runs out. -/
abbrev Anchored {α : Type} (reader : List Char → Scan α) : Prop := Shortens Never reader

/-- What is read of a text, and then what is made of it and of the text after it. -/
def andThen {α β : Type} (x : Scan α) (k : α → List Char → Scan β) : Scan β :=
  match x with
  | .error f => .error f
  | .ok (v, rest) => k v rest

theorem exists_of_andThen {α β : Type} {x : Scan α} {k : α → List Char → Scan β} {w : β}
    {rest : List Char} (h : andThen x k = .ok (w, rest)) :
    ∃ v r, x = .ok (v, r) ∧ k v r = .ok (w, rest) := by
  rcases x with f | ⟨v, r⟩
  · simp [andThen] at h
  · exact ⟨v, r, rfl, h⟩

namespace Shortened

variable {α β : Type} {R : α → α → Prop} {S : β → β → Prop} {t : List Char}

/-- A scan that goes to the end of the first part. -/
theorem atEnd {x : Scan α} {v' : α} (h : ∀ v rest, x = .ok (v, rest) → R v v') :
    Shortened R t x (.ok (v', [])) := by
  rcases x with f | ⟨v, rest⟩
  · exact .refused f _
  · exact .less rest (h v rest rfl)

/-- One scan after another. -/
theorem andThen {x x' : Scan α} {k k' : α → List Char → Scan β} (h : Shortened R t x x')
    (hk : ∀ v r, x' = .ok (v, r) → Shortened S t (k v (r ++ t)) (k' v r))
    (hend : ∀ v v' rest, R v v' → Shortened S t (k v rest) (k' v' [])) :
    Shortened S t (Json.andThen x k) (Json.andThen x' k') := by
  cases h with
  | refused f part => exact .refused f _
  | same v r => exact hk v r rfl
  | less rest hv => exact hend _ _ rest hv
  | out whole hcause => exact .out _ hcause

/-- A scan after one that sees where to end. -/
theorem thenScan {x x' : Scan α} {k k' : α → List Char → Scan β} (h : Shortened Never t x x')
    (hk : ∀ v r, x' = .ok (v, r) → Shortened S t (k v (r ++ t)) (k' v r)) :
    Shortened S t (Json.andThen x k) (Json.andThen x' k') :=
  h.andThen hk fun _ _ _ hnever => hnever.elim

theorem ite {p : Prop} [Decidable p] {x x' y y' : Scan α} (h : p → Shortened R t x x')
    (h' : ¬ p → Shortened R t y y') :
    Shortened R t (if p then x else y) (if p then x' else y') := by
  by_cases hp : p
  · rw [if_pos hp, if_pos hp]
    exact h hp
  · rw [if_neg hp, if_neg hp]
    exact h' hp

end Shortened

/-! ### White space -/

theorem skipSpace_append {s r : List Char} {c : Char} (t : List Char) (h : skipSpace s = c :: r) :
    skipSpace (s ++ t) = c :: (r ++ t) := by
  rw [skipSpace] at h
  rw [skipSpace, List.dropWhile_append, h]
  rfl

/-! ### Words -/

theorem word_anchored (letters : List Char) : Anchored (word letters) := by
  intro s t
  induction letters generalizing s with
  | nil => exact .same () s
  | cons w ws ih =>
      cases s with
      | nil => exact .out _ rfl
      | cons c s =>
          rw [List.cons_append, word, word]
          exact .ite (fun _ => ih s) fun _ => .refused _ _

/-! ### Strings -/

/-- Hexadecimal digits take one byte each. -/
theorem utf8Size_of_hexValue {c : Char} {n : Nat} (h : hexValue? c = some n) : c.utf8Size = 1 :=
  Char.utf8Size_eq_one_iff.mpr (UInt32.le_trans (le_of_hexValue h) (by decide))

theorem bytes_eq_length {s : List Char} (h : ∀ c ∈ s, c.utf8Size = 1) : Position.bytes s = s.length := by
  induction s with
  | nil => rfl
  | cons c s ih =>
      obtain ⟨hc, hs⟩ := List.forall_mem_cons.mp h
      rw [Position.bytes_cons, hc, ih hs, List.length_cons, Nat.add_comm]

theorem fourDigits_anchored : Anchored fourDigits := by
  intro s t
  cases h : fourDigits (s ++ t) with
  | error f => exact .refused f _
  | ok p =>
      obtain ⟨n, rest⟩ := p
      obtain ⟨u, rfl, hs⟩ := fourDigits_sound h
      rcases List.append_eq_append_iff.mp hs with ⟨x, hx, rfl⟩ | ⟨r, rfl, rfl⟩
      · cases x with
        | nil =>
            have hdigits := fourDigits_complete u []
            rw [hx, List.append_nil, List.append_nil] at hdigits
            rw [hdigits]
            exact .same u.value []
        | cons d x =>
            -- The text ends among the digits.
            have hlength : s.length < 4 := by
              have hfour := u.four
              rw [hx, List.length_append, List.length_cons] at hfour
              omega
            have hbytes : Position.bytes s = s.length := by
              refine bytes_eq_length fun c hc => ?_
              obtain ⟨m, hm⟩ := hexValue_of_hexNumber u.spelled c (hx ▸ List.mem_append_left _ hc)
              exact utf8Size_of_hexValue hm
            unfold fourDigits
            rw [List.take_of_length_le (by omega), hbytes, if_pos hlength]
            exact .out _ rfl
      · rw [fourDigits_complete]
        exact .same u.value r

theorem lowSurrogate_pair (high : Nat) (s : List Char) :
    lowSurrogate high ('\\' :: 'u' :: s) = andThen (fourDigits s) fun low s =>
      if isLowSurrogate low then .ok (pairedChar high low, s)
      else .error (.here .loneSurrogate s) := by
  rw [lowSurrogate]
  cases fourDigits s <;> rfl

theorem lowSurrogate_anchored (high : Nat) : Anchored (lowSurrogate high) := by
  intro s t
  cases s with
  | nil => exact .out _ rfl
  | cons c s =>
      by_cases hc : c = '\\'
      · subst hc
        cases s with
        | nil => exact .out _ rfl
        | cons c s =>
            by_cases hc : c = 'u'
            · subst hc
              rw [List.cons_append, List.cons_append, lowSurrogate_pair, lowSurrogate_pair]
              exact (fourDigits_anchored s t).thenScan fun low r _ =>
                .ite (fun _ => .same _ r) fun _ => .refused _ _
            · have hwhole : lowSurrogate high ('\\' :: c :: s ++ t) =
                  .error ⟨.secondSurrogateExpected, c :: (s ++ t), 1⟩ := by
                simp [lowSurrogate, hc]
              rw [hwhole]
              exact .refused _ _
      · have hwhole : lowSurrogate high (c :: s ++ t) =
            .error ⟨.secondSurrogateExpected, c :: (s ++ t), 1⟩ := by
          simp [lowSurrogate, hc]
        rw [hwhole]
        exact .refused _ _

theorem escape_code (s : List Char) :
    escape ('u' :: s) = andThen (fourDigits s) fun n s =>
      if isLowSurrogate n then .error (.here .loneSurrogate s)
      else if isHighSurrogate n then lowSurrogate n s else .ok (Char.ofNat n, s) := by
  rw [escape]
  cases fourDigits s <;> rfl

theorem escape_anchored : Anchored escape := by
  intro s t
  cases s with
  | nil => exact .out _ rfl
  | cons c s =>
      by_cases hc : c = 'u'
      · subst hc
        rw [List.cons_append, escape_code, escape_code]
        exact (fourDigits_anchored s t).thenScan fun n r _ => .ite (fun _ => .refused _ _) fun _ =>
          .ite (fun _ => lowSurrogate_anchored n r t) fun _ => .same _ r
      · simp only [List.cons_append, escape]
        cases escapedLetter? c with
        | none => exact .refused _ _
        | some e => exact .same e s

theorem stringBody_close (s : List Char) : stringBody ('"' :: s) = .ok ([], s) := by
  rw [stringBody]

theorem stringBody_backslash (s : List Char) :
    stringBody ('\\' :: s) = andThen (escape s) fun c s =>
      andThen (stringBody s) fun cs s => .ok (c :: cs, s) := by
  rw [stringBody]
  split
  · rename_i f hf
    rw [hf]
    rfl
  · rename_i c after hc
    simp only [hc, andThen]
    cases stringBody after <;> rfl

theorem stringBody_other {c : Char} (hquote : c ≠ '"') (hback : c ≠ '\\') (s : List Char) :
    stringBody (c :: s) = if c.toNat < 0x20 then .error (.here .controlCharacter s)
      else andThen (stringBody s) fun cs s => .ok (c :: cs, s) := by
  rw [stringBody]
  · cases stringBody s <;> rfl
  · exact hquote
  · exact hback

theorem stringBody_anchored : Anchored stringBody := by
  intro s t
  induction hn : s.length using Nat.strongRecOn generalizing s with
  | _ n ih =>
      subst hn
      cases s with
      | nil =>
          rw [stringBody.eq_1]
          exact .out _ rfl
      | cons c s =>
          rw [List.cons_append]
          by_cases hquote : c = '"'
          · subst hquote
            rw [stringBody_close, stringBody_close]
            exact .same [] s
          by_cases hback : c = '\\'
          · subst hback
            rw [stringBody_backslash, stringBody_backslash]
            refine (escape_anchored s t).thenScan fun c r hr => ?_
            have hlt := Nat.lt_succ_of_lt (length_of_escape hr)
            exact (ih r.length hlt r rfl).thenScan fun cs r _ => .same (c :: cs) r
          · rw [stringBody_other hquote hback, stringBody_other hquote hback]
            refine .ite (fun _ => .refused _ _) fun _ => ?_
            exact (ih s.length (Nat.lt_succ_self _) s rfl).thenScan fun cs r _ => .same (c :: cs) r

/-! ### Number literals -/

/-- Read digits, as many as there are. -/
def digitRun (s : List Char) : Scan (List Char) :=
  .ok (s.takeWhile Char.isDigit, s.dropWhile Char.isDigit)

theorem digitRun_cons {c : Char} (hc : c.isDigit = true) (s : List Char) :
    digitRun (c :: s) = andThen (digitRun s) fun ds s => .ok (c :: ds, s) := by
  rw [digitRun, List.takeWhile_cons_of_pos hc, List.dropWhile_cons_of_pos hc]
  rfl

theorem digitRun_shortens : Shortens (fun ds ds' => ds' <+: ds) digitRun := by
  intro s t
  induction s with
  | nil => exact .less _ List.nil_prefix
  | cons c s ih =>
      by_cases hc : c.isDigit = true
      · rw [List.cons_append, digitRun_cons hc, digitRun_cons hc]
        exact ih.andThen (fun ds r _ => .same (c :: ds) r) fun ds ds' rest h =>
          .less rest ((List.prefix_cons_inj c).mpr h)
      · have hrun : ∀ s, digitRun (c :: s) = .ok ([], c :: s) := by
          intro s
          rw [digitRun, List.takeWhile_cons_of_neg hc, List.dropWhile_cons_of_neg hc]
        rw [List.cons_append, hrun, hrun]
        exact .same [] (c :: s)

theorem exponentDigits_cons (c : Char) (s : List Char) :
    exponentDigits (c :: s) =
      if c.isDigit then digitRun (c :: s) else .error ⟨.invalidNumber, c :: s, 1⟩ := by
  rw [exponentDigits]
  by_cases hc : c.isDigit = true
  · rw [if_pos hc, if_pos hc, digitRun_cons hc]
    rfl
  · rw [if_neg hc, if_neg hc]

theorem exponentDigits_shortens : Shortens (fun ds ds' => ds' <+: ds) exponentDigits := by
  intro s t
  cases s with
  | nil => exact .out _ rfl
  | cons c s =>
      rw [List.cons_append, exponentDigits_cons, exponentDigits_cons]
      exact .ite (fun _ => digitRun_shortens (c :: s) t) fun _ => .refused _ _

theorem wholePart_other {c : Char} (hc : c ≠ '0') (s : List Char) :
    wholePart (c :: s) = exponentDigits (c :: s) := by
  rw [wholePart, exponentDigits]
  exact hc

theorem wholePart_shortens : Shortens (fun ds ds' => ds' <+: ds) wholePart := by
  intro s t
  cases s with
  | nil => exact .out _ rfl
  | cons c s =>
      by_cases hc : c = '0'
      · subst hc
        rw [List.cons_append, wholePart, wholePart]
        cases s with
        | nil =>
            by_cases hdigit : (t.head?.map Char.isDigit).getD false = true
            · rw [List.nil_append, if_pos hdigit]
              exact .refused _ _
            · rw [List.nil_append, if_neg hdigit]
              exact .same ['0'] []
        | cons d s => exact .ite (fun _ => .refused _ _) fun _ => .same ['0'] (d :: s)
      · rw [List.cons_append, wholePart_other hc, wholePart_other hc]
        exact exponentDigits_shortens (c :: s) t

theorem fractionPart_point (c : Char) (s : List Char) :
    fractionPart ('.' :: c :: s) = if c.isDigit then
      andThen (digitRun (c :: s)) fun ds s => .ok (some ds, s)
      else .error (.ahead .invalidNumber (c :: s)) := by
  rw [fractionPart]
  by_cases hc : c.isDigit = true
  · rw [if_pos hc, digitRun_cons hc]
    simp [List.takeWhile_cons_of_pos hc, List.dropWhile_cons_of_pos hc, digitRun, andThen]
  · rw [if_neg hc]
    simp [List.takeWhile_cons_of_neg hc]

theorem fractionPart_shortens : Shortens Ever fractionPart := by
  intro s t
  cases s with
  | nil =>
      exact .atEnd fun _ _ _ => trivial
  | cons c s =>
      by_cases hc : c = '.'
      · subst hc
        cases s with
        | nil => exact .out _ rfl
        | cons d s =>
            rw [List.cons_append, List.cons_append, fractionPart_point, fractionPart_point]
            refine .ite (fun _ => ?_) fun _ => .refused _ _
            exact (digitRun_shortens (d :: s) t).andThen (fun ds r _ => .same (some ds) r)
              fun ds ds' rest _ => .less rest trivial
      · have hnone : ∀ s, fractionPart (c :: s) = .ok (none, c :: s) := by
          intro s
          rw [fractionPart]
          exact fun r hr => hc (List.cons.inj hr).1
        rw [List.cons_append, hnone, hnone]
        exact .same none (c :: s)

/-- An exponent that is cut: there is none, or one with fewer digits. -/
inductive CutExponent : Option (Bool × List Char) → Option (Bool × List Char) → Prop
  | none (e : Option (Bool × List Char)) : CutExponent e none
  | some (negative : Bool) {digits digits' : List Char} (h : digits' <+: digits) :
      CutExponent (some (negative, digits)) (some (negative, digits'))

theorem exponentSign_append {s : List Char} (hs : s ≠ []) (t : List Char) :
    exponentSign (s ++ t) = ((exponentSign s).1, (exponentSign s).2 ++ t) := by
  cases s with
  | nil => exact absurd rfl hs
  | cons c s =>
      by_cases hminus : c = '-'
      · subst hminus
        rfl
      by_cases hplus : c = '+'
      · subst hplus
        rfl
      have hnone : ∀ s, exponentSign (c :: s) = (false, c :: s) := by
        intro s
        simp [exponentSign, hminus, hplus]
      rw [List.cons_append, hnone, hnone]
      rfl

theorem exponentPart_cons (c : Char) (s : List Char) :
    exponentPart (c :: s) = if c = 'e' || c = 'E' then
      andThen (exponentDigits (exponentSign s).2) fun digits r =>
        .ok (some ((exponentSign s).1, digits), r)
      else .ok (none, c :: s) := by
  rw [exponentPart]
  split
  · dsimp only
    cases exponentDigits (exponentSign s).2 <;> rfl
  · rfl

theorem exponentPart_shortens : Shortens CutExponent exponentPart := by
  intro s t
  cases s with
  | nil =>
      exact .atEnd fun e _ _ => .none e
  | cons c s =>
      rw [List.cons_append, exponentPart_cons, exponentPart_cons]
      refine .ite (fun _ => ?_) fun _ => .same none (c :: s)
      cases s with
      | nil => exact .out _ rfl
      | cons d s =>
          rw [exponentSign_append (List.cons_ne_nil d s)]
          exact (exponentDigits_shortens _ t).andThen (fun digits r _ => .same _ r)
            fun digits digits' rest h => .less rest (.some _ h)

/-- A numeral that is cut: it has no exponent, or its exponent is cut and all before it is
there. -/
inductive CutNumeral (n : Numeral) : Numeral → Prop
  | bare (whole : List Char) (fraction : Option (List Char)) :
      CutNumeral n ⟨n.negative, whole, fraction, none⟩
  | exponent {negative : Bool} {digits digits' : List Char} (he : n.exponent = some (negative, digits))
      (h : digits' <+: digits) : CutNumeral n { n with exponent := some (negative, digits') }

theorem unsignedNumeral_eq (negative : Bool) (s : List Char) :
    unsignedNumeral negative s = andThen (wholePart s) fun whole s =>
      andThen (fractionPart s) fun fraction s =>
        andThen (exponentPart s) fun exponent s =>
          .ok (⟨negative, whole, fraction, exponent⟩, s) := by
  rw [unsignedNumeral]
  rcases wholePart s with f | ⟨whole, s⟩
  · rfl
  dsimp only [andThen]
  rcases fractionPart s with f | ⟨fraction, s⟩
  · rfl
  dsimp only
  rcases exponentPart s with f | ⟨exponent, s⟩ <;> rfl

theorem unsignedNumeral_shortens (negative : Bool) :
    Shortens CutNumeral (unsignedNumeral negative) := by
  intro s t
  rw [unsignedNumeral_eq, unsignedNumeral_eq]
  have hbare : ∀ {n : Numeral} {rest r : List Char} {whole fraction},
      (andThen (exponentPart rest) fun exponent s =>
        (.ok (⟨negative, whole, fraction, exponent⟩, s) : Scan Numeral)) = .ok (n, r) →
      ∀ whole' fraction', CutNumeral n ⟨negative, whole', fraction', none⟩ := by
    intro n rest r whole fraction h whole' fraction'
    obtain ⟨exponent, r', -, h⟩ := exists_of_andThen h
    simp only [Except.ok.injEq, Prod.mk.injEq] at h
    obtain ⟨rfl, rfl⟩ := h
    exact .bare whole' fraction'
  refine (wholePart_shortens s t).andThen (fun whole s _ => ?_) fun whole whole' rest _ => ?_
  · refine (fractionPart_shortens s t).andThen (fun fraction s _ => ?_)
      fun fraction fraction' rest _ => ?_
    · refine (exponentPart_shortens s t).andThen (fun exponent r _ => .same _ r)
        fun exponent exponent' rest h => .less rest ?_
      cases h with
      | none => exact .bare whole fraction
      | some negative' h => exact .exponent rfl h
    · exact .atEnd fun n r h => hbare h whole fraction'
  · refine .atEnd fun n r h => ?_
    obtain ⟨fraction, r', -, h⟩ := exists_of_andThen h
    exact hbare h whole' none

theorem numeral_shortens : Shortens CutNumeral numeral := by
  intro s t
  cases s with
  | nil => exact .out _ rfl
  | cons c s =>
      by_cases hc : c = '-'
      · subst hc
        exact unsignedNumeral_shortens true s t
      · have hplain : ∀ s, numeral (c :: s) = unsignedNumeral false (c :: s) := by
          intro s
          rw [numeral]
          exact fun r hr => hc (List.cons.inj hr).1
        rw [List.cons_append, hplain, hplain]
        exact unsignedNumeral_shortens false (c :: s) t

/-! ### Numbers -/

theorem exponentValue_append {value : Nat} {digits unread : List Char}
    (h : exponentValue value digits = .error unread) (more : List Char) :
    exponentValue value (digits ++ more) = .error (unread ++ more) := by
  induction digits generalizing value with
  | nil => simp [exponentValue] at h
  | cons c digits ih =>
      rw [exponentValue] at h
      rw [List.cons_append, exponentValue]
      split at h
      · rename_i hlt
        rw [if_pos hlt]
        exact ih h
      · rename_i hle
        rw [if_neg hle, ← Except.error.inj h]

/-- A number is found, or no digit is left that would tell that there is none. -/
def AllRead (x : Except (List Char) Number) : Prop := ∀ unread, x = .error unread → unread = []

namespace Numeral

theorem finish_none {n : Numeral} (h : n.exponent = none) (significand : Nat) (place : Int) :
    AllRead (n.finish significand place) := by
  intro unread hn
  rw [finish, h] at hn
  cases hm : scaled significand place with
  | none => simpa [hm, eq_comm] using hn
  | some m => simp [hm] at hn

/-- Digits of an exponent that are left unread would be so with more digits after them. -/
theorem finish_some {n : Numeral} {negative : Bool} {digits digits' : List Char} {significand : Nat}
    {place : Int} {x : Number} (he : n.exponent = some (negative, digits)) (hd : digits' <+: digits)
    (h : n.finish significand place = .ok x) :
    AllRead ({ n with exponent := some (negative, digits') }.finish significand place) := by
  intro unread hn
  obtain ⟨more, rfl⟩ := hd
  rw [finish, he] at h
  rw [finish] at hn
  dsimp only at h hn
  cases hv : exponentValue 0 digits' with
  | error unread' =>
      rw [exponentValue_append hv] at h
      rw [hv] at hn
      dsimp only at h hn
      by_cases hzero : (significand = 0 || negative) = true
      · simp [hzero] at hn
      · simp [hzero] at h
  | ok e =>
      rw [hv] at hn
      dsimp only at hn
      split at hn
      · simp at hn
      · exact (Except.error.inj hn).symm

/-- A numeral that is no integer is finished as its whole part and its fraction say. -/
theorem exists_finish (n : Numeral) :
    (∃ x, n.value = .ok x) ∨ ∃ significand place, n.value = n.finish significand place := by
  unfold value
  split
  dsimp only
  split
  · exact Or.inl ⟨_, rfl⟩
  · exact Or.inr ⟨_, _, rfl⟩

theorem exists_finish_exponent (n : Numeral) : ∃ significand place, ∀ e,
    { n with exponent := some e }.value =
      { n with exponent := some e }.finish significand place := by
  rcases hwhole : collect 0 n.whole with ⟨significand, dropped⟩
  rcases hfraction : collect significand (n.fraction.getD []) with ⟨significand', surplus⟩
  refine ⟨significand',
    dropped.length - ((n.fraction.getD []).length - surplus.length : Nat), fun e => ?_⟩
  simp only [value, hwhole, hfraction, Option.isNone_some, Bool.and_false, Bool.false_eq_true,
    if_false]

theorem allRead_value {n n' : Numeral} {x : Number} (h : CutNumeral n n') (hn : n.value = .ok x) :
    AllRead n'.value := by
  cases h with
  | bare whole fraction =>
      rcases exists_finish ⟨n.negative, whole, fraction, none⟩ with ⟨y, hy⟩ | ⟨significand, place, hf⟩
      · rw [hy]
        intro unread hc
        simp at hc
      · rw [hf]
        exact finish_none rfl significand place
  | @exponent negative digits digits' he hd =>
      obtain ⟨significand, place, hf⟩ := exists_finish_exponent n
      have hself := hf (negative, digits)
      rw [← he] at hself
      rw [hf]
      exact finish_some he hd (hself ▸ hn)

end Numeral

theorem readNumber_eq (s : List Char) :
    readNumber s = andThen (numeral s) fun n s =>
      match n.value with
      | .ok x => .ok (x, s)
      | .error unread => .error (.here .numberOutOfRange (unread ++ s)) := by
  rw [readNumber]
  cases numeral s <;> rfl

theorem readNumber_shortens : Shortens Ever readNumber := by
  intro s t
  rw [readNumber_eq, readNumber_eq]
  refine (numeral_shortens s t).andThen (fun n r _ => ?_) fun n n' rest h => ?_
  · cases n.value with
    | error unread => exact .refused _ _
    | ok x => exact .same x r
  · cases hn : n.value with
    | error unread => exact .refused _ _
    | ok x =>
        cases hn' : n'.value with
        | ok x' => exact .less rest trivial
        | error unread =>
            rw [Numeral.allRead_value h hn unread hn']
            exact .out _ rfl

end HttpGet.Json
