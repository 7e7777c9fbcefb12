/-
Values that are written and read back.

A text is written as a basic string, its characters spelled one by one; a list of texts is
written as an array on one line, a flag as its word.  What is read of a written value is the
value, wherever it stands: the rest of the text only has to stop a word, and not to go on
with a quotation mark.

How a character is spelled is left open.  A character that may stand in a basic string spells
itself, and every character can be spelled by an escape; a spelling that escapes the dollar
sign too leaves nothing that could begin a placeholder.
-/
import HttpGet.Text.Hex
import HttpGet.Text.Split
import HttpGet.Config.File

namespace HttpGet.Toml

/-! ### Written values -/

/-- The letters of hexadecimal digits. -/
inductive DigitCase where
  | lower
  | upper

/-- A hexadecimal digit with such letters. -/
def DigitCase.digit : DigitCase → Nat → Char
  | lower, n => hexDigit n
  | upper, n => (hexDigit n).toUpper

/-- The last four hexadecimal digits of a number. -/
def DigitCase.fourDigits (letters : DigitCase) (n : Nat) : List Char :=
  [n / 0x1000, n / 0x100, n / 0x10, n].map fun m => letters.digit (m % 0x10)

/-- Whether a character is written as an escape: those that a basic string needs escaped, and
the dollar sign. -/
def isEscaped (c : Char) : Bool :=
  c = '"' || c = '\\' || c = '$' || c.toNat < 0x20 || c = '\x7f'

/-- The spelling of a character in a basic string. -/
def escapeChar (letters : DigitCase) (c : Char) : List Char :=
  if isEscaped c then '\\' :: 'u' :: letters.fourDigits c.toNat else [c]

/-- A text as a basic string, by the spellings of its characters. -/
def writeText (spelling : Char → List Char) (text : String) : List Char :=
  '"' :: text.toList.flatMap spelling ++ ['"']

/-- A list of texts as an array. -/
def writeTexts (spelling : Char → List Char) (texts : List String) : List Char :=
  '[' :: joinWith [',', ' '] (texts.map (writeText spelling)) ++ [']']

/-- A flag as its word. -/
def writeFlag (b : Bool) : List Char := if b then "true".toList else "false".toList

/-! ### Characters of written values -/

theorem not_mem_escapeChar (letters : DigitCase) (c : Char) : '$' ∉ escapeChar letters c := by
  have hdigit : ∀ letters ∈ [DigitCase.lower, .upper], ∀ n : Fin 0x10, letters.digit n ≠ '$' := by
    decide
  rw [escapeChar]
  split
  · simp only [DigitCase.fourDigits, List.map_cons, List.map_nil, List.mem_cons,
      List.not_mem_nil, or_false, not_or]
    have hne (n : Nat) : '$' ≠ letters.digit (n % 0x10) :=
      (hdigit letters (by cases letters <;> simp) ⟨n % 0x10, Nat.mod_lt _ (by decide)⟩).symm
    exact ⟨by decide, by decide, hne _, hne _, hne _, hne _⟩
  · rename_i h
    intro hmem
    obtain rfl := List.mem_singleton.mp hmem
    exact h rfl

theorem not_mem_writeTexts {spelling : Char → List Char} (h : ∀ c, '$' ∉ spelling c)
    (texts : List String) : '$' ∉ writeTexts spelling texts := by
  have htext (text : String) : '$' ∉ writeText spelling text := by simp [writeText, h]
  have hjoined : ∀ c ∈ joinWith [',', ' '] (texts.map (writeText spelling)), c ≠ '$' := by
    refine forall_mem_joinWith (by simp) fun piece hpiece c hc => ?_
    obtain ⟨text, -, rfl⟩ := List.mem_map.mp hpiece
    exact fun heq => htext text (heq ▸ hc)
  rw [writeTexts, List.mem_append, List.mem_cons]
  rintro ((h | h) | h)
  · exact absurd h (by decide)
  · exact hjoined _ h rfl
  · exact absurd h (by decide)

theorem not_mem_writeFlag (b : Bool) : '$' ∉ writeFlag b := by cases b <;> decide

/-! ### Basic strings -/

/-- Whether a basic string may spell a character so. -/
def Spells (c : Char) (written : List Char) : Prop :=
  ∀ rest, basicString (written ++ rest) = (basicString rest).map fun p => (c :: p.1, p.2)

theorem basicString_quote (rest : List Char) : basicString ('"' :: rest) = some ([], rest) := by
  rw [basicString]

/-- Whether a character may stand in a basic string as it is. -/
def isPlain (c : Char) : Bool := isTextChar c && c ≠ '"' && c ≠ '\\'

theorem spells_of_isPlain {c : Char} (h : isPlain c = true) : Spells c [c] := by
  simp only [isPlain, Bool.and_eq_true, decide_eq_true_eq] at h
  obtain ⟨⟨htext, hquote⟩, hslash⟩ := h
  intro rest
  rw [List.singleton_append, basicString.eq_4 _ _ (fun h => hquote h) (fun h => hslash h),
    if_pos htext]

theorem hexEscape_fourDigits (letters : DigitCase) {n : Nat} (h : n < 0x80) (rest : List Char) :
    hexEscape 4 (letters.fourDigits n ++ rest) = some (Char.ofNat n, rest) := by
  have hall : ∀ letters ∈ [DigitCase.lower, .upper], ∀ n : Fin 0x80,
      (letters.fourDigits n).all (fun c => (baseDigit? 16 c).isSome) = true ∧
        scalarValue? (numberInBase 16 (letters.fourDigits n)) = some (Char.ofNat n) := by
    decide +kernel
  obtain ⟨hdigits, hvalue⟩ := hall letters (by cases letters <;> simp) ⟨n, h⟩
  have htake : (letters.fourDigits n ++ rest).take 4 = letters.fourDigits n := List.take_left' rfl
  have hdrop : (letters.fourDigits n ++ rest).drop 4 = rest := List.drop_left' rfl
  simp only [hexEscape, htake, hdrop]
  rw [hvalue, if_pos (by rw [hdigits]; rfl)]
  rfl

theorem spells_escape (letters : DigitCase) {c : Char} (h : c.toNat < 0x80) :
    Spells c ('\\' :: 'u' :: letters.fourDigits c.toNat) := by
  intro rest
  have hescape : escape ('u' :: (letters.fourDigits c.toNat ++ rest)) = some (c, rest) := by
    rw [escape]
    show Option.bind (some 4) _ = _
    rw [Option.bind_some, hexEscape_fourDigits letters h, Char.ofNat_toNat]
  rw [List.cons_append, List.cons_append, basicString.eq_3]
  split
  · rename_i hnone
    rw [hescape] at hnone
    exact absurd hnone (by simp)
  · rename_i d after hsome
    rw [hescape, Option.some.injEq, Prod.mk.injEq] at hsome
    obtain ⟨rfl, rfl⟩ := hsome
    rfl

/-- Every character can be spelled. -/
theorem spells_escapeChar (letters : DigitCase) (c : Char) : Spells c (escapeChar letters c) := by
  rw [escapeChar]
  by_cases h : isEscaped c = true
  · rw [if_pos h]
    refine spells_escape letters ?_
    simp only [isEscaped, Bool.or_eq_true, decide_eq_true_eq] at h
    obtain (((rfl | rfl) | rfl) | h) | rfl := h
    · decide
    · decide
    · decide
    · omega
    · decide
  · rw [if_neg h]
    refine spells_of_isPlain ?_
    simp only [isEscaped, Bool.or_eq_true, decide_eq_true_eq, not_or] at h
    obtain ⟨⟨⟨⟨hquote, hslash⟩, -⟩, hcontrol⟩, hdelete⟩ := h
    simp [isPlain, isTextChar, hquote, hslash, hdelete, Nat.le_of_not_lt hcontrol]

/-- A spelling has a first character, which is not the mark that ends the string. -/
theorem Spells.exists_cons {c : Char} {written : List Char} (h : Spells c written) :
    ∃ d tail, written = d :: tail ∧ d ≠ '"' := by
  cases written with
  | nil =>
      have hquote := h ['"']
      rw [List.nil_append, basicString_quote] at hquote
      simp at hquote
  | cons d tail =>
      refine ⟨d, tail, rfl, ?_⟩
      rintro rfl
      have hquote := h ['"']
      rw [List.cons_append, basicString_quote, basicString_quote] at hquote
      simp at hquote

theorem basicString_flatMap {spelling : Char → List Char} {s : List Char}
    (h : ∀ c ∈ s, Spells c (spelling c)) (rest : List Char) :
    basicString (s.flatMap spelling ++ '"' :: rest) = some (s, rest) := by
  induction s with
  | nil => exact basicString_quote rest
  | cons c s ih =>
      obtain ⟨hc, hs⟩ := List.forall_mem_cons.mp h
      rw [List.flatMap_cons, List.append_assoc, hc, ih hs]
      rfl

theorem readString_writeText {spelling : Char → List Char} {text : String}
    (h : ∀ c ∈ text.toList, Spells c (spelling c)) {rest : List Char}
    (hrest : rest.head? ≠ some '"') :
    readString true (writeText spelling text ++ rest) = some (text, rest) := by
  have hbasic := basicString_flatMap h rest
  have hwritten : writeText spelling text ++ rest =
      '"' :: (text.toList.flatMap spelling ++ '"' :: rest) := by
    simp [writeText]
  -- the marks are no long ones
  have hshort : ∀ tail, text.toList.flatMap spelling ++ '"' :: rest ≠ '"' :: '"' :: tail := by
    intro tail heq
    cases hs : text.toList with
    | nil =>
        rw [hs] at heq
        obtain ⟨-, rfl⟩ := List.cons.inj heq
        exact hrest rfl
    | cons c s =>
        obtain ⟨d, tail', hd, hne⟩ := (h c (by rw [hs]; simp)).exists_cons
        rw [hs, List.flatMap_cons, hd] at heq
        exact hne (List.cons.inj heq).1
  rw [hwritten, readString.eq_3 _ _ (fun tail heq => hshort tail heq), hbasic]
  simp

/-! ### Layout -/

/-- Whether a text begins with a part of a value, and not with blanks, a comment or a line
break. -/
def IsSolid (s : List Char) : Prop :=
  ∃ c rest, s = c :: rest ∧ isBlankChar c = false ∧ c ≠ '#' ∧ c ≠ '\n' ∧ c ≠ '\r'

theorem skipBlanks_cons {c : Char} (h : isBlankChar c = false) (rest : List Char) :
    skipBlanks (c :: rest) = c :: rest := by
  simp [skipBlanks, h]

theorem skipBlanks_space (s : List Char) : skipBlanks (' ' :: s) = skipBlanks s := rfl

theorem IsSolid.lineBreak?_eq_none {s : List Char} (h : IsSolid s) : lineBreak? s = none := by
  obtain ⟨c, rest, rfl, -, -, hfeed, hreturn⟩ := h
  unfold lineBreak?
  split
  · rename_i heq
    exact absurd (List.cons.inj heq).1 hfeed
  · rename_i heq
    exact absurd (List.cons.inj heq).1 hreturn
  · rfl

theorem skipLayout?_of_isSolid {s t : List Char} (hs : skipBlanks s = t) (ht : IsSolid t)
    (fuel : Nat) : skipLayout? (fuel + 1) s = some t := by
  have hbreak := ht.lineBreak?_eq_none
  obtain ⟨c, rest, rfl, -, hcomment, -⟩ := ht
  rw [skipLayout?, hs]
  split
  · rename_i heq
    exact absurd (List.cons.inj heq).1 hcomment
  · simp only [hbreak]

theorem skipLayout_of_isSolid {s : List Char} (h : IsSolid s) : skipLayout s = some s := by
  obtain ⟨c, rest, rfl, hblank, hrest⟩ := h
  exact skipLayout?_of_isSolid (skipBlanks_cons hblank rest) ⟨c, rest, rfl, hblank, hrest⟩ _

theorem skipLayout_space {s : List Char} (h : IsSolid s) : skipLayout (' ' :: s) = some s := by
  obtain ⟨c, rest, rfl, hblank, hrest⟩ := h
  refine skipLayout?_of_isSolid ?_ ⟨c, rest, rfl, hblank, hrest⟩ _
  rw [skipBlanks_space, skipBlanks_cons hblank]

/-! ### Values -/

/-- Whether a written value is read as a tree with a property wherever so many more values may
be nested.  The text after it does not go on with the word. -/
structure Reads (nesting : Nat) (written : List Char) (P : Tree → Prop) : Prop where
  solid : IsSolid written
  read : ∀ depth rest, rest.head?.all (!isWordChar ·) = true →
    ∃ tree, readValue (depth + nesting) (written ++ rest) = some (tree, rest) ∧ P tree

theorem Reads.imp {nesting : Nat} {written : List Char} {P Q : Tree → Prop}
    (h : Reads nesting written P) (himp : ∀ tree, P tree → Q tree) : Reads nesting written Q := by
  refine ⟨h.solid, fun depth rest hrest => ?_⟩
  obtain ⟨tree, hread, hP⟩ := h.read depth rest hrest
  exact ⟨tree, hread, himp tree hP⟩

/-- The value of a written text, before a mark of the syntax. -/
theorem readValue_writeText {spelling : Char → List Char} {text : String}
    (h : ∀ c ∈ text.toList, Spells c (spelling c)) (depth : Nat) {rest : List Char}
    (hrest : rest.head? ≠ some '"') :
    ∃ span, readValue depth (writeText spelling text ++ rest) =
      some (.scalar span (.text text), rest) := by
  refine ⟨.between (writeText spelling text ++ rest) rest, ?_⟩
  have hread := readString_writeText h hrest
  rw [writeText, List.cons_append, List.cons_append] at hread ⊢
  rw [readValue.eq_5, hread]
  rfl

theorem isSolid_of_cons {c : Char} (rest : List Char)
    (h : (!isBlankChar c && c ≠ '#' && c ≠ '\n' && c ≠ '\r') = true) : IsSolid (c :: rest) := by
  simp only [Bool.and_eq_true, decide_eq_true_eq, Bool.not_eq_true'] at h
  exact ⟨c, rest, rfl, h.1.1.1, h.1.1.2, h.1.2, h.2⟩

theorem readItems_last {item : List Char → Option (Tree × List Char)} {s t rest : List Char}
    {v : Tree} (hs : skipLayout s = some ('"' :: t)) (hv : item ('"' :: t) = some (v, ']' :: rest))
    (fuel : Nat) : readItems item (fuel + 1) s = some ([v], rest) := by
  have hafter : skipLayout (']' :: rest) = some (']' :: rest) :=
    skipLayout_of_isSolid (isSolid_of_cons rest rfl)
  rw [readItems, hs]
  simp only [Option.bind_eq_bind, Option.bind_some, hv, hafter]
  rfl

theorem readItems_more {item : List Char → Option (Tree × List Char)}
    {s t after rest : List Char} {v : Tree} {vs : List Tree} {fuel : Nat}
    (hs : skipLayout s = some ('"' :: t)) (hv : item ('"' :: t) = some (v, ',' :: after))
    (hvs : readItems item fuel after = some (vs, rest)) :
    readItems item (fuel + 1) s = some (v :: vs, rest) := by
  have hafter : skipLayout (',' :: after) = some (',' :: after) :=
    skipLayout_of_isSolid (isSolid_of_cons after rfl)
  rw [readItems, hs]
  simp only [Option.bind_eq_bind, Option.bind_some, hv, hafter, hvs]
  rfl

/-- What follows the bracket of an array of texts is a text or the other bracket. -/
theorem isSolid_items (spelling : Char → List Char) (texts : List String) (rest : List Char) :
    IsSolid (joinWith [',', ' '] (texts.map (writeText spelling)) ++ ']' :: rest) := by
  cases texts with
  | nil => exact isSolid_of_cons _ rfl
  | cons text texts =>
      cases texts with
      | nil => exact isSolid_of_cons _ rfl
      | cons text' texts => exact isSolid_of_cons _ rfl

/-- The items of an array of texts, from a text that begins with them after its layout. -/
theorem readItems_texts {spelling : Char → List Char} (depth : Nat) {texts : List String}
    (h : ∀ text ∈ texts, ∀ c ∈ text.toList, Spells c (spelling c)) {s rest : List Char}
    (hs : skipLayout s =
      some (joinWith [',', ' '] (texts.map (writeText spelling)) ++ ']' :: rest))
    {fuel : Nat} (hfuel : texts.length ≤ fuel) :
    ∃ items, readItems (readValue depth) (fuel + 1) s = some (items, rest) ∧
      items.mapM Tree.asText = .ok texts := by
  induction texts generalizing s fuel with
  | nil => exact ⟨[], by rw [readItems, hs]; rfl, rfl⟩
  | cons text texts ih =>
      obtain ⟨htext, htexts⟩ := List.forall_mem_cons.mp h
      cases texts with
      | nil =>
          obtain ⟨span, hvalue⟩ :=
            readValue_writeText htext depth (show (']' :: rest).head? ≠ some '"' by simp)
          exact ⟨[.scalar span (.text text)], readItems_last hs hvalue fuel, rfl⟩
      | cons text' texts =>
          obtain ⟨fuel, rfl⟩ := Nat.exists_eq_succ_of_ne_zero (Nat.ne_zero_of_lt hfuel)
          have hjoin (w : List Char) (ws : List (List Char)) :
              joinWith [',', ' '] (writeText spelling text :: w :: ws) ++ ']' :: rest =
                writeText spelling text ++
                  ',' :: ' ' :: (joinWith [',', ' '] (w :: ws) ++ ']' :: rest) := by
            simp [joinWith]
          rw [List.map_cons, List.map_cons, hjoin] at hs
          obtain ⟨span, hvalue⟩ :=
            readValue_writeText htext depth (show (',' :: _).head? ≠ some '"' by simp)
          have hnext := skipLayout_space (isSolid_items spelling (text' :: texts) rest)
          obtain ⟨items, hitems, htexts'⟩ := ih htexts hnext (Nat.le_of_succ_le_succ hfuel)
          refine ⟨.scalar span (.text text) :: items, readItems_more hs hvalue hitems, ?_⟩
          rw [List.mapM_cons, htexts']
          rfl

theorem length_le_length_joinWith (texts : List String) (spelling : Char → List Char) :
    texts.length ≤ (joinWith [',', ' '] (texts.map (writeText spelling))).length := by
  induction texts with
  | nil => exact Nat.zero_le _
  | cons text texts ih =>
      cases texts with
      | nil => simp [joinWith, writeText]
      | cons text' texts =>
          rw [List.map_cons] at ih
          simp only [List.map_cons, joinWith, List.length_append, List.length_cons] at ih ⊢
          omega

/-- An array of texts is read as a value. -/
theorem reads_writeTexts {spelling : Char → List Char} {texts : List String}
    (h : ∀ text ∈ texts, ∀ c ∈ text.toList, Spells c (spelling c)) :
    Reads 1 (writeTexts spelling texts) fun tree => tree.asTexts = .ok texts := by
  refine ⟨isSolid_of_cons _ rfl, fun depth rest _ => ?_⟩
  have hwritten : writeTexts spelling texts ++ rest =
      '[' :: (joinWith [',', ' '] (texts.map (writeText spelling)) ++ ']' :: rest) := by
    simp [writeTexts]
  have hstart := skipLayout_of_isSolid (isSolid_items spelling texts rest)
  have hfuel : texts.length ≤
      (joinWith [',', ' '] (texts.map (writeText spelling)) ++ ']' :: rest).length := by
    have hjoined := length_le_length_joinWith texts spelling
    rw [List.length_append]
    omega
  obtain ⟨items, hitems, htexts⟩ := readItems_texts depth h hstart hfuel
  rw [hwritten, readValue.eq_2, hitems]
  exact ⟨_, rfl, htexts⟩

/-- A run of characters ends where the text stops it. -/
theorem run_append {p : Char → Bool} {run rest : List Char} (hrun : ∀ c ∈ run, p c = true)
    (hrest : rest.head?.all (!p ·) = true) :
    (run ++ rest).takeWhile p = run ∧ (run ++ rest).dropWhile p = rest := by
  rw [List.takeWhile_append_of_pos hrun, List.dropWhile_append_of_pos hrun]
  cases rest with
  | nil => simp
  | cons c rest =>
      have hc : p c = false := by simpa using hrest
      simp [hc]

theorem takeWord_of_not_isMoment {word rest : List Char}
    (hword : ∀ c ∈ word, isWordChar c = true) (hdate : date? word = none)
    (hrest : rest.head?.all (!isWordChar ·) = true) : takeWord (word ++ rest) = (word, rest) := by
  obtain ⟨htake, hdrop⟩ := run_append hword hrest
  rw [takeWord, htake, hdrop, hdate]
  split <;> simp

theorem readValue_word {depth : Nat} {c : Char} {s word rest : List Char} {value : Scalar}
    (hc : c ∉ ['[', '\x7b', '"', '\'']) (hword : takeWord (c :: s) = (word, rest))
    (hvalue : scalar? word = some value) :
    readValue depth (c :: s) = some (.scalar (.between (c :: s) rest) value, rest) := by
  simp only [List.mem_cons, List.not_mem_nil, or_false, not_or] at hc
  rw [readValue.eq_7 _ _ (fun _ h => hc.1 (List.cons.inj h).1)
    (fun _ h => hc.2.1 (List.cons.inj h).1) (fun _ h => hc.2.2.1 (List.cons.inj h).1)
    (fun _ h => hc.2.2.2 (List.cons.inj h).1), hword]
  simp only [hvalue]
  rfl

/-- A flag is read as a value. -/
theorem reads_writeFlag (b : Bool) : Reads 1 (writeFlag b) fun tree => tree.asFlag = .ok b := by
  refine ⟨by cases b <;> exact isSolid_of_cons _ rfl, fun depth rest hrest => ?_⟩
  have hword : takeWord (writeFlag b ++ rest) = (writeFlag b, rest) := by
    have hchars : (writeFlag b).all isWordChar = true := by cases b <;> decide
    have hdate : date? (writeFlag b) = none := by cases b <;> decide
    exact takeWord_of_not_isMoment (List.all_eq_true.mp hchars) hdate hrest
  have hscalar : scalar? (writeFlag b) = some (.flag b) := by cases b <;> decide
  cases b with
  | true => exact ⟨_, readValue_word (by decide) hword hscalar, rfl⟩
  | false => exact ⟨_, readValue_word (by decide) hword hscalar, rfl⟩

end HttpGet.Toml
