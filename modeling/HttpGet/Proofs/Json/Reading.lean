/-
Reading the parts of lists and objects.

A reader of values is measured against a relation between derivations and values by
`Accords`, in both directions at once: what it accepts is derived, and what is derived it
accepts.  The loops over items and members carry this from the reader of one part to all of
them.  `listed` is what a loop has before it, with or without a comma before the first part,
so that one induction serves the first round and the later ones; and the blanks that are
skipped before a comma or a closing bracket belong to the part before it.
-/
import HttpGet.Json.Parser
import HttpGet.Proofs.Json.NumberLiteral
import HttpGet.Proofs.Json.StringLiteral

namespace HttpGet.Json

/-! ### White space -/

theorem isSpace_iff {c : Char} :
    isSpace c = true ↔ c = ' ' ∨ c = '\t' ∨ c = '\n' ∨ c = '\r' := by
  simp only [isSpace, Bool.or_eq_true, decide_eq_true_eq]
  constructor
  · rintro (((h | h) | h) | h)
    · exact Or.inl h
    · exact Or.inr (Or.inr (Or.inl h))
    · exact Or.inr (Or.inl h)
    · exact Or.inr (Or.inr (Or.inr h))
  · rintro (h | h | h | h)
    · exact Or.inl (Or.inl (Or.inl h))
    · exact Or.inl (Or.inr h)
    · exact Or.inl (Or.inl (Or.inr h))
    · exact Or.inr h

namespace Gap

/-- No blanks. -/
def none : Gap := ⟨[], by simp⟩

/-- Blanks after blanks. -/
def append (a b : Gap) : Gap where
  chars := a.chars ++ b.chars
  blank := by
    intro c hc
    rcases List.mem_append.mp hc with hc | hc
    · exact a.blank c hc
    · exact b.blank c hc

@[simp] theorem chars_none : none.chars = [] := rfl

@[simp] theorem chars_append (a b : Gap) : (a.append b).chars = a.chars ++ b.chars := rfl

end Gap

/-- Blanks are skipped. -/
@[simp] theorem skipSpace_gap (gap : Gap) (s : List Char) :
    skipSpace (gap.chars ++ s) = skipSpace s := by
  rw [skipSpace, List.dropWhile_append_of_pos fun c hc => isSpace_iff.mpr (gap.blank c hc)]
  rfl

theorem skipSpace_cons {c : Char} (h : isSpace c = false) (s : List Char) :
    skipSpace (c :: s) = c :: s := by
  simp [skipSpace, h]

/-- Only blanks are skipped. -/
theorem exists_gap (s : List Char) : ∃ gap : Gap, s = gap.chars ++ skipSpace s := by
  refine ⟨⟨s.takeWhile isSpace, fun c hc => ?_⟩, List.takeWhile_append_dropWhile.symm⟩
  exact isSpace_iff.mp (List.all_eq_true.mp List.all_takeWhile c hc)

/-- What stands between the parts of a text ends a number. -/
theorem stops_cons {c : Char} (h : c = ',' ∨ c = ']' ∨ c = '}') (s : List Char) :
    Stops (c :: s) := by
  intro d rest hs
  rw [← (List.cons.inj hs).1]
  rcases h with rfl | rfl | rfl <;> decide

theorem stops_gap (gap : Gap) {s : List Char} (h : Stops s) : Stops (gap.chars ++ s) := by
  intro c rest hs
  cases hgap : gap.chars with
  | nil =>
      rw [hgap, List.nil_append] at hs
      exact h c rest hs
  | cons d ds =>
      rw [hgap, List.cons_append] at hs
      rw [← (List.cons.inj hs).1]
      rcases gap.blank d (by simp [hgap]) with rfl | rfl | rfl | rfl <;> decide

/-! ### Lists of parts -/

/-- The comma before a part, unless it is the first. -/
def comma (first : Bool) : List Char := if first then [] else [',']

/-- Parts with the commas that stand before them. -/
def listed : (first : Bool) → List (List Char) → List Char
  | _, [] => []
  | first, part :: parts => comma first ++ (part ++ listed false parts)

/-- After a part comes a comma or the end, and neither goes on with a number. -/
theorem stops_listed (parts : List (List Char)) {close : Char} (h : close = ']' ∨ close = '}')
    (rest : List Char) : Stops (listed false parts ++ close :: rest) := by
  cases parts with
  | nil => exact stops_cons (Or.inr h) rest
  | cons part parts => exact stops_cons (Or.inl rfl) _

theorem joinWith_eq_listed (parts : List (List Char)) : joinWith [','] parts = listed true parts := by
  cases parts with
  | nil => rfl
  | cons part parts =>
      induction parts generalizing part with
      | nil => simp [joinWith, listed, comma]
      | cons p parts ih =>
          rw [joinWith, ih]
          · simp [listed, comma]
          · simp

/-- There are at most as many parts as characters, and one. -/
theorem length_le_listed (first : Bool) (parts : List (List Char)) :
    parts.length ≤ (listed first parts).length + 1 := by
  have hlater : ∀ parts : List (List Char), parts.length ≤ (listed false parts).length := by
    intro parts
    induction parts with
    | nil => simp [listed]
    | cons part parts ih =>
        simp only [listed, comma, Bool.false_eq_true, if_false, List.length_append, List.length_cons]
        omega
  cases parts with
  | nil => simp
  | cons part parts =>
      have h := hlater parts
      simp only [listed, List.length_append, List.length_cons]
      omega

namespace Derivation

/-- The characters of an item with its blanks. -/
def itemChars (i : Padded Derivation) : List Char := i.chars chars

/-- The characters of a member with its blanks. -/
def memberChars (m : Padded (List Piece) × Padded Derivation) : List Char :=
  m.1.chars literal ++ ':' :: m.2.chars chars

theorem chars_array (gap : Gap) (items : List (Padded Derivation)) :
    (array gap items).chars =
      '[' :: gap.chars ++ joinWith [','] (items.map itemChars) ++ [']'] := by
  rw [chars]
  rfl

theorem chars_object (gap : Gap) (members : List (Padded (List Piece) × Padded Derivation)) :
    (object gap members).chars =
      '{' :: gap.chars ++ joinWith [','] (members.map memberChars) ++ ['}'] := by
  rw [chars]
  rfl

/-- A value begins neither with a blank nor with the end of a list. -/
theorem chars_eq_cons (d : Derivation) :
    ∃ c rest, d.chars = c :: rest ∧ isSpace c = false ∧ c ≠ ']' := by
  cases d with
  | null => exact ⟨'n', _, by rw [chars]; rfl, by decide, by decide⟩
  | flag b =>
      cases b with
      | true => exact ⟨'t', _, by rw [chars]; rfl, by decide, by decide⟩
      | false => exact ⟨'f', _, by rw [chars]; rfl, by decide, by decide⟩
  | number n =>
      obtain ⟨c, rest, hn, hc⟩ := n.chars_eq_cons
      refine ⟨c, rest, by rw [chars, hn], ?_, ?_⟩
      · rw [Bool.eq_false_iff]
        intro hspace
        rcases isSpace_iff.mp hspace with rfl | rfl | rfl | rfl <;> revert hc <;> decide
      · rintro rfl
        revert hc
        decide
  | text ps => exact ⟨'"', _, by rw [chars]; rfl, by decide, by decide⟩
  | array gap items => exact ⟨'[', _, by rw [chars_array]; rfl, by decide, by decide⟩
  | object gap members => exact ⟨'{', _, by rw [chars_object]; rfl, by decide, by decide⟩

end Derivation

/-! ### Readers and relations -/

/-- A reader accords with a relation between derivations and values: what it accepts is,
after blanks, derived for the value that it gives; and it accepts what is derived, if what
follows cannot be taken for more of a number. -/
structure Accords {α : Type} (reader : List Char → Scan α) (P : Derivation → α → Prop) : Prop where
  sound : ∀ {s rest : List Char} {v : α}, reader s = .ok (v, rest) →
    ∃ (gap : Gap) (d : Derivation), s = gap.chars ++ (d.chars ++ rest) ∧ P d v
  complete : ∀ {d : Derivation} {v : α}, P d v → ∀ (gap : Gap) {rest : List Char}, Stops rest →
    reader (gap.chars ++ (d.chars ++ rest)) = .ok (v, rest)

/-! ### Items -/

theorem nextItem_none {first : Bool} {s : List Char} (h : nextItem first s = .ok none) :
    ∃ rest, skipSpace s = ']' :: rest := by
  unfold nextItem at h
  split at h
  · simp at h
  · rename_i rest hs
    exact ⟨rest, hs⟩
  · split at h
    · simp at h
    · split at h
      · split at h <;> simp at h
      · simp at h

theorem nextItem_some {first : Bool} {s s' : List Char} (h : nextItem first s = .ok (some s')) :
    ∃ gap gap' : Gap, s = gap.chars ++ (comma first ++ (gap'.chars ++ s')) := by
  obtain ⟨gap, hgap⟩ := exists_gap s
  unfold nextItem at h
  split at h
  · simp at h
  · simp at h
  · rename_i c rest _ hs
    cases first with
    | true =>
        simp only [if_true, Except.ok.injEq, Option.some.injEq] at h
        exact ⟨gap, .none, by rw [hgap, hs, h]; rfl⟩
    | false =>
        simp only [Bool.false_eq_true, if_false] at h
        by_cases hc : c = ','
        · rw [if_pos hc] at h
          obtain ⟨gap', hgap'⟩ := exists_gap rest
          have hrest : skipSpace rest = s' := by
            split at h
            · simp at h
            · simp at h
            · simpa using h
          refine ⟨gap, gap', ?_⟩
          rw [hgap, hs, hc, ← hrest, ← hgap']
          rfl
        · rw [if_neg hc] at h
          simp at h

theorem nextItem_end (first : Bool) (gap : Gap) (rest : List Char) :
    nextItem first (gap.chars ++ ']' :: rest) = .ok none := by
  rw [nextItem, skipSpace_gap, skipSpace_cons (by decide)]
  rfl

/-- What begins neither with a blank nor with the end of a list is the next item. -/
theorem nextItem_cons (first : Bool) (gap gap' : Gap) {c : Char} (hspace : isSpace c = false)
    (hend : c ≠ ']') (rest : List Char) :
    nextItem first (gap.chars ++ (comma first ++ (gap'.chars ++ c :: rest))) =
      .ok (some (c :: rest)) := by
  cases first with
  | true =>
      rw [nextItem, skipSpace_gap, comma, if_pos rfl, List.nil_append, skipSpace_gap,
        skipSpace_cons hspace]
      split
      · rename_i h
        exact absurd h (by simp)
      · rename_i h
        exact absurd (List.cons.inj h).1 hend
      · rename_i h
        rw [if_pos rfl, h]
  | false =>
      have hnext : skipSpace (gap'.chars ++ c :: rest) = c :: rest := by
        rw [skipSpace_gap, skipSpace_cons hspace]
      rw [nextItem, skipSpace_gap, comma, if_neg (by decide), List.singleton_append,
        skipSpace_cons (by decide)]
      split
      · rename_i h
        exact absurd h (by simp)
      · rename_i h
        exact absurd (List.cons.inj h).1 (by decide)
      · rename_i h
        obtain ⟨rfl, rfl⟩ := List.cons.inj h
        rw [if_neg (by decide), if_pos rfl, hnext]
        split
        · rename_i h
          exact absurd h (by simp)
        · rename_i h
          exact absurd (List.cons.inj h).1 hend
        · rfl

theorem nextItem_derivation (first : Bool) (gap gap' : Gap) (d : Derivation) (rest : List Char) :
    nextItem first (gap.chars ++ (comma first ++ (gap'.chars ++ (d.chars ++ rest)))) =
      .ok (some (d.chars ++ rest)) := by
  obtain ⟨c, r, hd, hspace, hend⟩ := d.chars_eq_cons
  rw [hd, List.cons_append]
  exact nextItem_cons first gap gap' hspace hend (r ++ rest)

/-- Items that are read are derived.  The blanks that are skipped after an item are its own. -/
theorem readItems_sound {α : Type} {item : List Char → Scan α} {P : Derivation → α → Prop}
    (hitem : Accords item P) {fuel : Nat} {first : Bool} {s rest : List Char} {vs : List α}
    (h : readItems item fuel first s = .ok (vs, rest)) :
    ∃ (gap : Gap) (items : List (Padded Derivation)) (after : List Char), rest = ']' :: after ∧
      s = gap.chars ++ (listed first (items.map Derivation.itemChars) ++ rest) ∧
        List.Forall₂ P (items.map Padded.core) vs := by
  induction fuel generalizing first s vs with
  | zero => simp [readItems] at h
  | succ fuel ih =>
      rw [readItems] at h
      cases hnext : nextItem first s with
      | error f => simp [hnext] at h
      | ok next =>
          cases next with
          | none =>
              simp only [hnext, Except.ok.injEq, Prod.mk.injEq] at h
              obtain ⟨rfl, rfl⟩ := h
              obtain ⟨after, hs⟩ := nextItem_none hnext
              obtain ⟨gap, hgap⟩ := exists_gap s
              exact ⟨gap, [], after, hs, hgap, List.Forall₂.nil⟩
          | some s₁ =>
              cases hv : item s₁ with
              | error f => simp [hnext, hv] at h
              | ok p =>
                  obtain ⟨v, s₂⟩ := p
                  cases hvs : readItems item fuel false s₂ with
                  | error f => simp [hnext, hv, hvs] at h
                  | ok p =>
                      obtain ⟨vs', s₃⟩ := p
                      simp only [hnext, hv, hvs, Except.ok.injEq, Prod.mk.injEq] at h
                      obtain ⟨rfl, rfl⟩ := h
                      obtain ⟨gap, before, rfl⟩ := nextItem_some hnext
                      obtain ⟨before', d, rfl, hd⟩ := hitem.sound hv
                      obtain ⟨after, items, r, hr, rfl, hitems⟩ := ih hvs
                      refine ⟨gap, ⟨before.append before', d, after⟩ :: items, r, hr, ?_,
                        List.Forall₂.cons hd hitems⟩
                      simp [listed, Derivation.itemChars, Padded.chars]

/-- Items that are derived are read, with fuel for each of them and for the end. -/
theorem readItems_complete {α : Type} {item : List Char → Scan α} {P : Derivation → α → Prop}
    (hitem : Accords item P) {items : List (Padded Derivation)} {vs : List α}
    (h : List.Forall₂ P (items.map Padded.core) vs) {fuel : Nat} (hfuel : items.length < fuel)
    (first : Bool) (gap : Gap) (after : List Char) :
    readItems item fuel first
      (gap.chars ++ (listed first (items.map Derivation.itemChars) ++ ']' :: after)) =
        .ok (vs, ']' :: after) := by
  induction items generalizing vs fuel first gap with
  | nil =>
      obtain ⟨fuel, rfl⟩ := Nat.exists_eq_succ_of_ne_zero (Nat.ne_zero_of_lt hfuel)
      obtain rfl := List.forall₂_nil_left_iff.mp h
      rw [List.map_nil, listed, List.nil_append, readItems, nextItem_end, skipSpace_gap,
        skipSpace_cons (by decide)]
  | cons i items ih =>
      obtain ⟨fuel, rfl⟩ := Nat.exists_eq_succ_of_ne_zero (Nat.ne_zero_of_lt hfuel)
      obtain ⟨v, vs, hv, hvs, rfl⟩ := List.forall₂_cons_left_iff.mp h
      have htail := ih hvs (Nat.lt_of_succ_lt_succ hfuel) false i.after
      -- After the item come its own blanks and then a comma or the bracket.
      have hstops : Stops (i.after.chars ++
          (listed false (items.map Derivation.itemChars) ++ ']' :: after)) :=
        stops_gap i.after (stops_listed _ (Or.inl rfl) after)
      have hread := hitem.complete hv .none hstops
      rw [Gap.chars_none, List.nil_append] at hread
      have hnext := nextItem_derivation first gap i.before i.core (i.after.chars ++
        (listed false (items.map Derivation.itemChars) ++ ']' :: after))
      rw [readItems, List.map_cons, listed, Derivation.itemChars, Padded.chars]
      simp only [List.append_assoc] at hnext ⊢
      simp only [hnext, hread, htail]

/-! ### Keys -/

theorem nextKey_none {first : Bool} {s : List Char} (h : nextKey first s = .ok none) :
    ∃ rest, skipSpace s = '}' :: rest := by
  unfold nextKey at h
  split at h
  · simp at h
  · rename_i rest hs
    exact ⟨rest, hs⟩
  · split at h
    · split at h <;> simp at h
    · split at h
      · split at h <;> simp at h
      · simp at h

theorem nextKey_some {first : Bool} {s s' : List Char} (h : nextKey first s = .ok (some s')) :
    ∃ gap gap' : Gap, s = gap.chars ++ (comma first ++ (gap'.chars ++ '"' :: s')) := by
  obtain ⟨gap, hgap⟩ := exists_gap s
  unfold nextKey at h
  split at h
  · simp at h
  · simp at h
  · rename_i c rest _ hs
    cases first with
    | true =>
        rw [if_pos rfl] at h
        by_cases hc : c = '"'
        · simp only [if_pos hc, Except.ok.injEq, Option.some.injEq] at h
          exact ⟨gap, .none, by rw [hgap, hs, hc, h]; rfl⟩
        · simp [hc] at h
    | false =>
        rw [if_neg (by decide)] at h
        by_cases hc : c = ','
        · rw [if_pos hc] at h
          obtain ⟨gap', hgap'⟩ := exists_gap rest
          have hrest : skipSpace rest = '"' :: s' := by
            split at h
            · simp at h
            · rename_i hs'
              rw [hs', Option.some.inj (Except.ok.inj h)]
            · simp at h
            · simp at h
          refine ⟨gap, gap', ?_⟩
          rw [hgap, hs, hc, ← hrest, ← hgap']
          rfl
        · rw [if_neg hc] at h
          simp at h

theorem nextKey_end (first : Bool) (gap : Gap) (rest : List Char) :
    nextKey first (gap.chars ++ '}' :: rest) = .ok none := by
  rw [nextKey, skipSpace_gap, skipSpace_cons (by decide)]
  rfl

theorem nextKey_quote (first : Bool) (gap gap' : Gap) (rest : List Char) :
    nextKey first (gap.chars ++ (comma first ++ (gap'.chars ++ '"' :: rest))) = .ok (some rest) := by
  cases first with
  | true =>
      rw [nextKey, skipSpace_gap, comma, if_pos rfl, List.nil_append, skipSpace_gap,
        skipSpace_cons (by decide)]
      rfl
  | false =>
      have hnext : skipSpace (gap'.chars ++ '"' :: rest) = '"' :: rest := by
        rw [skipSpace_gap, skipSpace_cons (by decide)]
      rw [nextKey, skipSpace_gap, comma, if_neg (by decide), List.singleton_append,
        skipSpace_cons (by decide)]
      simp [hnext]

theorem readKey_sound {s rest : List Char} {key : String} (h : readKey s = .ok (key, rest)) :
    ∃ (ps : List Piece) (gap : Gap), unescaped ps = key ∧
      s = ps.flatMap Piece.chars ++ '"' :: (gap.chars ++ ':' :: rest) := by
  unfold readKey at h
  cases hbody : stringBody s with
  | error f => simp [hbody] at h
  | ok p =>
      obtain ⟨cs, s₁⟩ := p
      obtain ⟨ps, hps, hs⟩ := stringBody_sound hbody
      obtain ⟨gap, hgap⟩ := exists_gap s₁
      simp only [hbody, readColon] at h
      split at h
      · simp at h
      · rename_i hcolon
        split at hcolon
        · simp at hcolon
        · rename_i hskip
          simp only [Except.ok.injEq, Prod.mk.injEq, true_and] at h hcolon
          obtain ⟨rfl, rfl⟩ := h
          refine ⟨ps, gap, by rw [unescaped, hps], ?_⟩
          rw [hs, hgap, hskip, hcolon]
        · simp at hcolon

theorem readKey_complete (ps : List Piece) (gap : Gap) (rest : List Char) :
    readKey (ps.flatMap Piece.chars ++ '"' :: (gap.chars ++ ':' :: rest)) =
      .ok (unescaped ps, rest) := by
  have hcolon : readColon (gap.chars ++ ':' :: rest) = .ok ((), rest) := by
    rw [readColon, skipSpace_gap, skipSpace_cons (by decide)]
    rfl
  simp only [readKey, stringBody_complete, hcolon, unescaped]

/-! ### Members -/

/-- A written member and one that is read have the same key, and their values stand in a
relation. -/
structure MemberOf {α : Type} (P : Derivation → α → Prop)
    (m : Padded (List Piece) × Padded Derivation) (kv : String × α) : Prop where
  key : unescaped m.1.core = kv.1
  value : P m.2.core kv.2

theorem forall₂_memberOf_iff {α : Type} {P : Derivation → α → Prop}
    {members : List (Padded (List Piece) × Padded Derivation)} {kvs : List (String × α)} :
    List.Forall₂ (MemberOf P) members kvs ↔
      kvs.map Prod.fst = members.map (fun m => unescaped m.1.core) ∧
        List.Forall₂ P (members.map fun m => m.2.core) (kvs.map Prod.snd) := by
  induction members generalizing kvs with
  | nil =>
      cases kvs with
      | nil => simp
      | cons kv kvs => simp
  | cons m members ih =>
      cases kvs with
      | nil => simp
      | cons kv kvs =>
          simp only [List.forall₂_cons, List.map_cons, List.cons.injEq, ih]
          constructor
          · rintro ⟨⟨hkey, hvalue⟩, hkeys, hvalues⟩
            exact ⟨⟨hkey.symm, hkeys⟩, hvalue, hvalues⟩
          · rintro ⟨⟨hkey, hkeys⟩, hvalue, hvalues⟩
            exact ⟨⟨hkey.symm, hvalue⟩, hkeys, hvalues⟩

/-- Members that are read are derived.  The blanks that are skipped after a member belong to
its value. -/
theorem readMembers_sound {α : Type} {value : List Char → Scan α} {P : Derivation → α → Prop}
    (hvalue : Accords value P) {fuel : Nat} {first : Bool} {s rest : List Char}
    {kvs : List (String × α)} (h : readMembers value fuel first s = .ok (kvs, rest)) :
    ∃ (gap : Gap) (members : List (Padded (List Piece) × Padded Derivation)) (after : List Char),
      rest = '}' :: after ∧
        s = gap.chars ++ (listed first (members.map Derivation.memberChars) ++ rest) ∧
          List.Forall₂ (MemberOf P) members kvs := by
  induction fuel generalizing first s kvs with
  | zero => simp [readMembers] at h
  | succ fuel ih =>
      rw [readMembers] at h
      cases hnext : nextKey first s with
      | error f => simp [hnext] at h
      | ok next =>
          cases next with
          | none =>
              simp only [hnext, Except.ok.injEq, Prod.mk.injEq] at h
              obtain ⟨rfl, rfl⟩ := h
              obtain ⟨after, hs⟩ := nextKey_none hnext
              obtain ⟨gap, hgap⟩ := exists_gap s
              exact ⟨gap, [], after, hs, hgap, List.Forall₂.nil⟩
          | some s₁ =>
              cases hkey : readKey s₁ with
              | error f => simp [hnext, hkey] at h
              | ok p =>
                  obtain ⟨key, s₂⟩ := p
                  cases hv : value s₂ with
                  | error f => simp [hnext, hkey, hv] at h
                  | ok p =>
                      obtain ⟨v, s₃⟩ := p
                      cases hkvs : readMembers value fuel false s₃ with
                      | error f => simp [hnext, hkey, hv, hkvs] at h
                      | ok p =>
                          obtain ⟨kvs', s₄⟩ := p
                          simp only [hnext, hkey, hv, hkvs, Except.ok.injEq, Prod.mk.injEq] at h
                          obtain ⟨rfl, rfl⟩ := h
                          obtain ⟨gap, before, rfl⟩ := nextKey_some hnext
                          obtain ⟨ps, colon, hps, rfl⟩ := readKey_sound hkey
                          obtain ⟨before', d, rfl, hd⟩ := hvalue.sound hv
                          obtain ⟨after, members, r, hr, rfl, hmembers⟩ := ih hkvs
                          refine ⟨gap, (⟨before, ps, colon⟩, ⟨before', d, after⟩) :: members, r,
                            hr, ?_, List.Forall₂.cons ⟨hps, hd⟩ hmembers⟩
                          simp [listed, Derivation.memberChars, Padded.chars, literal]

/-- Members that are derived are read, with fuel for each of them and for the end. -/
theorem readMembers_complete {α : Type} {value : List Char → Scan α} {P : Derivation → α → Prop}
    (hvalue : Accords value P) {members : List (Padded (List Piece) × Padded Derivation)}
    {kvs : List (String × α)} (h : List.Forall₂ (MemberOf P) members kvs) {fuel : Nat}
    (hfuel : members.length < fuel) (first : Bool) (gap : Gap) (after : List Char) :
    readMembers value fuel first
      (gap.chars ++ (listed first (members.map Derivation.memberChars) ++ '}' :: after)) =
        .ok (kvs, '}' :: after) := by
  induction members generalizing kvs fuel first gap with
  | nil =>
      obtain ⟨fuel, rfl⟩ := Nat.exists_eq_succ_of_ne_zero (Nat.ne_zero_of_lt hfuel)
      obtain rfl := List.forall₂_nil_left_iff.mp h
      rw [List.map_nil, listed, List.nil_append, readMembers, nextKey_end, skipSpace_gap,
        skipSpace_cons (by decide)]
  | cons m members ih =>
      obtain ⟨fuel, rfl⟩ := Nat.exists_eq_succ_of_ne_zero (Nat.ne_zero_of_lt hfuel)
      obtain ⟨⟨key, v⟩, kvs, ⟨hkey, hv⟩, hkvs, rfl⟩ := List.forall₂_cons_left_iff.mp h
      obtain ⟨⟨before, ps, colon⟩, ⟨before', d, behind⟩⟩ := m
      obtain rfl : unescaped ps = key := hkey
      have htail := ih hkvs (Nat.lt_of_succ_lt_succ hfuel) false behind
      have hstops : Stops (behind.chars ++
          (listed false (members.map Derivation.memberChars) ++ '}' :: after)) :=
        stops_gap behind (stops_listed _ (Or.inr rfl) after)
      have hread := hvalue.complete hv before' hstops
      have hname := readKey_complete ps colon (before'.chars ++ (d.chars ++ (behind.chars ++
        (listed false (members.map Derivation.memberChars) ++ '}' :: after))))
      have hnext := nextKey_quote first gap before (ps.flatMap Piece.chars ++ '"' ::
        (colon.chars ++ ':' :: (before'.chars ++ (d.chars ++ (behind.chars ++
          (listed false (members.map Derivation.memberChars) ++ '}' :: after))))))
      rw [readMembers, List.map_cons, listed, Derivation.memberChars, Padded.chars, Padded.chars,
        literal]
      simp only [List.append_assoc, List.cons_append, List.nil_append] at hnext hname hread htail ⊢
      simp only [hnext, hname, hread, htail]

end HttpGet.Json
