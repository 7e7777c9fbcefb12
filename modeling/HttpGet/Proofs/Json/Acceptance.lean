/-
What the parser accepts.

A value that may nest `n` lists and objects is read exactly if it is derived with that
nesting.  The depth that is left for the reader goes down by one with every bracket, and so
does the depth of a derivation with every list and object, so the induction is on it: what
the reader does with the items of a list is what it does with one level less.
-/
import HttpGet.Proofs.Json.Members
import HttpGet.Proofs.Json.Reading

namespace HttpGet.Json

/-! ### Words -/

theorem word_sound {letters s rest : List Char} (h : word letters s = .ok ((), rest)) :
    s = letters ++ rest := by
  induction letters generalizing s with
  | nil => exact congrArg Prod.snd (Except.ok.inj h)
  | cons w ws ih =>
      cases s with
      | nil => simp [word] at h
      | cons c s =>
          rw [word] at h
          by_cases hc : c = w
          · rw [if_pos hc] at h
            rw [hc, ih h]
            rfl
          · rw [if_neg hc] at h
            simp at h

theorem word_complete (letters rest : List Char) : word letters (letters ++ rest) = .ok ((), rest) := by
  induction letters with
  | nil => rfl
  | cons w ws ih => rw [List.cons_append, word, if_pos rfl, ih]

theorem readWord_sound {letters : String} {value v : Json} {s rest : List Char}
    (h : readWord letters value s = .ok (v, rest)) : v = value ∧ s = letters.toList ++ rest := by
  unfold readWord at h
  split at h
  · simp at h
  · rename_i hword
    simp only [Except.ok.injEq, Prod.mk.injEq] at h
    obtain ⟨rfl, rfl⟩ := h
    exact ⟨rfl, word_sound hword⟩

theorem readWord_complete (letters : String) (value : Json) (rest : List Char) :
    readWord letters value (letters.toList ++ rest) = .ok (value, rest) := by
  simp only [readWord, word_complete]

/-! ### Nesting -/

theorem foldr_max_le_iff {l : List Nat} {n : Nat} : l.foldr max 0 ≤ n ↔ ∀ k ∈ l, k ≤ n := by
  induction l with
  | nil => simp
  | cons k l ih => rw [List.foldr_cons, Nat.max_le, ih, List.forall_mem_cons]

/-- A derivation of a value with at most `n` lists and objects in each other. -/
structure Within (n : Nat) (d : Derivation) (v : Json) : Prop where
  depth : d.depth ≤ n
  denotes : d.Denotes v

theorem forall₂_within_iff {n : Nat} {ds : List Derivation} {vs : List Json} :
    List.Forall₂ (Within n) ds vs ↔
      (∀ d ∈ ds, d.depth ≤ n) ∧ List.Forall₂ Derivation.Denotes ds vs := by
  rw [← List.forall₂_and_left]
  constructor
  · exact List.Forall₂.imp fun d v h => ⟨h.depth, h.denotes⟩
  · exact List.Forall₂.imp fun d v h => ⟨h.1, h.2⟩

namespace Derivation

theorem depth_array_pos (gap : Gap) (items : List (Padded Derivation)) :
    0 < (array gap items).depth := by
  rw [depth]
  omega

theorem depth_object_pos (gap : Gap) (members : List (Padded (List Piece) × Padded Derivation)) :
    0 < (object gap members).depth := by
  rw [depth]
  omega

theorem depth_array_le_iff {n : Nat} {gap : Gap} {items : List (Padded Derivation)} :
    (array gap items).depth ≤ n + 1 ↔ ∀ d ∈ items.map Padded.core, d.depth ≤ n := by
  rw [depth, Nat.add_le_add_iff_right, foldr_max_le_iff, List.forall_mem_map, List.forall_mem_map]

theorem depth_object_le_iff {n : Nat} {gap : Gap}
    {members : List (Padded (List Piece) × Padded Derivation)} :
    (object gap members).depth ≤ n + 1 ↔ ∀ d ∈ members.map (fun m => m.2.core), d.depth ≤ n := by
  rw [depth, Nat.add_le_add_iff_right, foldr_max_le_iff, List.forall_mem_map, List.forall_mem_map]

end Derivation

namespace Within

theorem array {n : Nat} {gap : Gap} {items : List (Padded Derivation)} {vs : List Json}
    (h : List.Forall₂ (Within n) (items.map Padded.core) vs) :
    Within (n + 1) (.array gap items) (.array vs) := by
  obtain ⟨hdepth, hdenotes⟩ := forall₂_within_iff.mp h
  exact ⟨Derivation.depth_array_le_iff.mpr hdepth, .array hdenotes⟩

theorem object {n : Nat} {gap : Gap} {members : List (Padded (List Piece) × Padded Derivation)}
    {kvs ms : List (String × Json)} (h : List.Forall₂ (MemberOf (Within n)) members kvs)
    (last : ObjectOf kvs ms) : Within (n + 1) (.object gap members) (.object ms) := by
  obtain ⟨hkeys, hvalues⟩ := forall₂_memberOf_iff.mp h
  obtain ⟨hdepth, hdenotes⟩ := forall₂_within_iff.mp hvalues
  exact ⟨Derivation.depth_object_le_iff.mpr hdepth, .object hkeys hdenotes last⟩

/-- What a list within some depth is made of. -/
theorem of_array {n : Nat} {gap : Gap} {items : List (Padded Derivation)} {v : Json}
    (h : Within n (.array gap items) v) :
    ∃ m vs, n = m + 1 ∧ v = .array vs ∧ List.Forall₂ (Within m) (items.map Padded.core) vs := by
  obtain ⟨hdepth, hdenotes⟩ := h
  cases hdenotes with
  | array hvs =>
      obtain ⟨m, rfl⟩ := Nat.exists_eq_add_one.mpr
        (Nat.lt_of_lt_of_le (Derivation.depth_array_pos gap items) hdepth)
      exact ⟨m, _, rfl, rfl,
        forall₂_within_iff.mpr ⟨Derivation.depth_array_le_iff.mp hdepth, hvs⟩⟩

/-- What an object within some depth is made of. -/
theorem of_object {n : Nat} {gap : Gap} {members : List (Padded (List Piece) × Padded Derivation)}
    {v : Json} (h : Within n (.object gap members) v) :
    ∃ m kvs ms, n = m + 1 ∧ v = .object ms ∧ ObjectOf kvs ms ∧
      List.Forall₂ (MemberOf (Within m)) members kvs := by
  obtain ⟨hdepth, hdenotes⟩ := h
  cases hdenotes with
  | @object _ _ kvs ms hkeys hvalues last =>
      obtain ⟨m, rfl⟩ := Nat.exists_eq_add_one.mpr
        (Nat.lt_of_lt_of_le (Derivation.depth_object_pos gap members) hdepth)
      refine ⟨m, kvs, ms, rfl, rfl, last, forall₂_memberOf_iff.mpr ⟨hkeys, ?_⟩⟩
      exact forall₂_within_iff.mpr ⟨Derivation.depth_object_le_iff.mp hdepth, hvalues⟩

end Within

/-! ### Values -/

/-- A list is read from its opening bracket on if its items are. -/
theorem readList_sound {m : Nat} (ih : Accords (readValue (m + 1)) (Within m)) {fuel : Nat}
    {s rest : List Char} {v : Json}
    (h : closing .array (readItems (readValue (m + 1)) fuel true s) = .ok (v, rest)) :
    ∃ d : Derivation, '[' :: s = d.chars ++ rest ∧ Within (m + 1) d v := by
  cases hitems : readItems (readValue (m + 1)) fuel true s with
  | error f => simp [hitems, closing] at h
  | ok p =>
      obtain ⟨vs, r⟩ := p
      obtain ⟨gap, items, after, rfl, rfl, hvs⟩ := readItems_sound ih hitems
      simp only [hitems, closing, List.tail_cons, Except.ok.injEq, Prod.mk.injEq] at h
      obtain ⟨rfl, rfl⟩ := h
      refine ⟨.array gap items, ?_, Within.array hvs⟩
      rw [Derivation.chars_array, joinWith_eq_listed]
      simp

theorem readObject_sound {m : Nat} (ih : Accords (readValue (m + 1)) (Within m)) {fuel : Nat}
    {s rest : List Char} {v : Json}
    (h : closing ofMembers (readMembers (readValue (m + 1)) fuel true s) = .ok (v, rest)) :
    ∃ d : Derivation, '{' :: s = d.chars ++ rest ∧ Within (m + 1) d v := by
  cases hmembers : readMembers (readValue (m + 1)) fuel true s with
  | error f => simp [hmembers, closing] at h
  | ok p =>
      obtain ⟨kvs, r⟩ := p
      obtain ⟨gap, members, after, rfl, rfl, hkvs⟩ := readMembers_sound ih hmembers
      simp only [hmembers, closing, List.tail_cons, Except.ok.injEq, Prod.mk.injEq] at h
      obtain ⟨rfl, rfl⟩ := h
      refine ⟨.object gap members, ?_, Within.object hkvs (ofMembers_eq_iff.mp rfl)⟩
      rw [Derivation.chars_object, joinWith_eq_listed]
      simp

theorem readList_complete {m : Nat} (ih : Accords (readValue (m + 1)) (Within m)) {gap : Gap}
    {items : List (Padded Derivation)} {vs : List Json}
    (h : List.Forall₂ (Within m) (items.map Padded.core) vs) (rest : List Char) :
    readValue (m + 2) ((Derivation.array gap items).chars ++ rest) = .ok (.array vs, rest) := by
  have hread : ∀ fuel, items.length < fuel → readItems (readValue (m + 1)) fuel true
      (gap.chars ++ (listed true (items.map Derivation.itemChars) ++ ']' :: rest)) =
        .ok (vs, ']' :: rest) :=
    fun fuel hfuel => readItems_complete ih h hfuel true gap rest
  have hlength := length_le_listed true (items.map Derivation.itemChars)
  rw [Derivation.chars_array, joinWith_eq_listed]
  simp only [List.cons_append, List.append_assoc, List.nil_append]
  rw [readValue, skipSpace_cons (by decide)]
  show (if m + 1 = 0 then _ else closing Json.array _) = _
  rw [if_neg (Nat.succ_ne_zero m), hread]
  · rfl
  · simp only [List.length_map, List.length_append, List.length_cons] at hlength ⊢
    omega

theorem readObject_complete {m : Nat} (ih : Accords (readValue (m + 1)) (Within m)) {gap : Gap}
    {members : List (Padded (List Piece) × Padded Derivation)} {kvs ms : List (String × Json)}
    (h : List.Forall₂ (MemberOf (Within m)) members kvs) (last : ObjectOf kvs ms)
    (rest : List Char) :
    readValue (m + 2) ((Derivation.object gap members).chars ++ rest) = .ok (.object ms, rest) := by
  have hread : ∀ fuel, members.length < fuel → readMembers (readValue (m + 1)) fuel true
      (gap.chars ++ (listed true (members.map Derivation.memberChars) ++ '}' :: rest)) =
        .ok (kvs, '}' :: rest) :=
    fun fuel hfuel => readMembers_complete ih h hfuel true gap rest
  have hlength := length_le_listed true (members.map Derivation.memberChars)
  rw [Derivation.chars_object, joinWith_eq_listed]
  simp only [List.cons_append, List.append_assoc, List.nil_append]
  rw [readValue, skipSpace_cons (by decide)]
  show (if m + 1 = 0 then _ else closing ofMembers _) = _
  rw [if_neg (Nat.succ_ne_zero m), hread]
  · exact congrArg (fun v => Except.ok (v, rest)) (ofMembers_eq_iff.mpr last)
  · simp only [List.length_map, List.length_append, List.length_cons] at hlength ⊢
    omega

/-- What the first character tells the reader to read is a value that begins with it. -/
theorem readValue_sound {n : Nat} (ih : ∀ m, n = m + 1 → Accords (readValue (m + 1)) (Within m))
    {s rest : List Char} {v : Json} (h : readValue (n + 1) s = .ok (v, rest)) :
    ∃ d : Derivation, skipSpace s = d.chars ++ rest ∧ Within n d v := by
  have atom : ∀ {d : Derivation}, d.depth = 0 → d.Denotes v → Within n d v :=
    fun hd hv => ⟨by omega, hv⟩
  rw [readValue] at h
  split at h
  · simp at h
  · rename_i s' hs
    obtain ⟨rfl, rfl⟩ := readWord_sound h
    refine ⟨.null, ?_, atom (by rw [Derivation.depth]) .null⟩
    rw [hs, Derivation.chars]
    rfl
  · rename_i s' hs
    obtain ⟨rfl, rfl⟩ := readWord_sound h
    refine ⟨.flag true, ?_, atom (by rw [Derivation.depth]) (.flag true)⟩
    rw [hs, Derivation.chars]
    rfl
  · rename_i s' hs
    obtain ⟨rfl, rfl⟩ := readWord_sound h
    refine ⟨.flag false, ?_, atom (by rw [Derivation.depth]) (.flag false)⟩
    rw [hs, Derivation.chars]
    rfl
  · rename_i s' hs
    cases hbody : stringBody s' with
    | error f => simp [hbody] at h
    | ok p =>
        obtain ⟨cs, r⟩ := p
        simp only [hbody, Except.ok.injEq, Prod.mk.injEq] at h
        obtain ⟨rfl, rfl⟩ := h
        obtain ⟨ps, rfl, hps⟩ := stringBody_sound hbody
        refine ⟨.text ps, ?_, atom (by rw [Derivation.depth]) (.text ps)⟩
        rw [hs, hps, Derivation.chars, literal]
        simp
  · rename_i s' hs
    cases n with
    | zero => simp at h
    | succ m =>
        rw [if_neg (Nat.succ_ne_zero m)] at h
        rw [hs]
        exact readList_sound (ih m rfl) h
  · rename_i s' hs
    cases n with
    | zero => simp at h
    | succ m =>
        rw [if_neg (Nat.succ_ne_zero m)] at h
        rw [hs]
        exact readObject_sound (ih m rfl) h
  · rename_i c s' _ _ _ _ _ _ hs
    split at h
    · cases hnumber : readNumber (c :: s') with
      | error f => simp [hnumber] at h
      | ok p =>
          obtain ⟨x, r⟩ := p
          simp only [hnumber, Except.ok.injEq, Prod.mk.injEq] at h
          obtain ⟨rfl, rfl⟩ := h
          obtain ⟨l, hl, hchars⟩ := readNumber_sound hnumber
          refine ⟨.number l, ?_, atom (by rw [Derivation.depth]) (.number hl)⟩
          rw [hs, hchars, Derivation.chars]
    · simp at h

/-- Where a number literal stands, a number is read. -/
theorem readValue_literal (l : NumberLiteral) (n : Nat) (rest : List Char) :
    readValue (n + 1) (l.chars ++ rest) =
      (readNumber (l.chars ++ rest)).map fun p => (.number p.1, p.2) := by
  obtain ⟨c, cs, hl, hc⟩ := l.chars_eq_cons
  have hfirst : (c = '-' || c.isDigit) = true := by simpa using hc
  have hspace : isSpace c = false := by
    obtain ⟨c', cs', hl', hspace, -⟩ := (Derivation.number l).chars_eq_cons
    rw [Derivation.chars, hl] at hl'
    rw [(List.cons.inj hl').1]
    exact hspace
  rw [hl, List.cons_append, readValue, skipSpace_cons hspace]
  split
  · rename_i heq
    exact absurd heq (by simp)
  all_goals rename_i heq
  all_goals obtain ⟨rfl, rfl⟩ := List.cons.inj heq
  -- What begins another value begins no number.
  · exact absurd hfirst (by decide)
  · exact absurd hfirst (by decide)
  · exact absurd hfirst (by decide)
  · exact absurd hfirst (by decide)
  · exact absurd hfirst (by decide)
  · exact absurd hfirst (by decide)
  · rw [if_pos hfirst]
    cases readNumber (c :: (cs ++ rest)) <;> rfl

theorem readValue_number {l : NumberLiteral} {x : Number} (h : l.numeral.Denotes x) (n : Nat)
    {rest : List Char} (hrest : Stops rest) :
    readValue (n + 1) (l.chars ++ rest) = .ok (.number x, rest) := by
  rw [readValue_literal, readNumber_complete h hrest]
  rfl

/-- A value is read from its first character on as it is derived. -/
theorem readValue_complete {n : Nat} (ih : ∀ m, n = m + 1 → Accords (readValue (m + 1)) (Within m))
    {d : Derivation} {v : Json} (h : Within n d v) {rest : List Char} (hrest : Stops rest) :
    readValue (n + 1) (d.chars ++ rest) = .ok (v, rest) := by
  cases d with
  | null =>
      cases h.denotes
      rw [Derivation.chars]
      exact readWord_complete "ull" .null rest
  | flag b =>
      cases h.denotes
      cases b with
      | true =>
          rw [Derivation.chars]
          exact readWord_complete "rue" (.flag true) rest
      | false =>
          rw [Derivation.chars]
          exact readWord_complete "alse" (.flag false) rest
  | number l =>
      cases h.denotes with
      | number hl =>
          rw [Derivation.chars]
          exact readValue_number hl n hrest
  | text ps =>
      cases h.denotes
      have hbody := stringBody_complete ps rest
      rw [Derivation.chars, literal]
      simp only [List.cons_append, List.append_assoc, List.nil_append]
      rw [readValue, skipSpace_cons (by decide)]
      simp only [hbody, unescaped]
  | array gap items =>
      obtain ⟨m, vs, rfl, rfl, hvs⟩ := h.of_array
      exact readList_complete (ih m rfl) hvs rest
  | object gap members =>
      obtain ⟨m, kvs, ms, rfl, rfl, last, hkvs⟩ := h.of_object
      exact readObject_complete (ih m rfl) hkvs last rest

/-- Blanks before a value are not seen. -/
theorem readValue_gap (n : Nat) (gap : Gap) (s : List Char) :
    readValue (n + 1) (gap.chars ++ s) = readValue (n + 1) s := by
  rw [readValue, readValue, skipSpace_gap]

/-- A reader that may go `n` levels down reads what nests at most `n` deep. -/
theorem readValue_accords (n : Nat) : Accords (readValue (n + 1)) (Within n) := by
  -- At the lowest level no list and no object is read, and none is derived.
  have level : ∀ k, (∀ m, k = m + 1 → Accords (readValue (m + 1)) (Within m)) →
      Accords (readValue (k + 1)) (Within k) := by
    intro k ih
    constructor
    · intro s rest v h
      obtain ⟨gap, hgap⟩ := exists_gap s
      obtain ⟨d, hd, hv⟩ := readValue_sound ih h
      exact ⟨gap, d, by rw [← hd, ← hgap], hv⟩
    · intro d v h gap rest hrest
      rw [readValue_gap]
      exact readValue_complete ih h hrest
  induction n with
  | zero => exact level 0 fun m hm => absurd hm (by simp)
  | succ n ih =>
      refine level (n + 1) ?_
      intro m hm
      obtain rfl := Nat.succ.inj hm
      exact ih

/-! ### Texts -/

theorem readEnd_eq_ok_iff {s : List Char} : readEnd s = .ok () ↔ ∃ gap : Gap, s = gap.chars := by
  unfold readEnd
  constructor
  · intro h
    obtain ⟨gap, hgap⟩ := exists_gap s
    split at h
    · rename_i hs
      exact ⟨gap, by rw [hgap, hs, List.append_nil]⟩
    · simp at h
  · rintro ⟨gap, rfl⟩
    have hskip : skipSpace gap.chars = [] := by
      have h := skipSpace_gap gap []
      rwa [List.append_nil] at h
    rw [hskip]

/-- **The parser accepts the texts that spell a value, and gives that value.** -/
theorem parse_eq_ok_iff {text : String} {v : Json} : parse text = .ok v ↔ Spells text v := by
  have hreader : Accords (readValue depthLimit) (Within 127) := readValue_accords 127
  constructor
  · intro h
    rw [parse, readText] at h
    split at h
    · simp at h
    · rename_i v' rest hread
      split at h
      · simp at h
      · rename_i hend
        obtain rfl := Except.ok.inj h
        obtain ⟨before, d, htext, hd⟩ := hreader.sound hread
        obtain ⟨after, rfl⟩ := readEnd_eq_ok_iff.mp hend
        refine ⟨⟨before, d, after⟩, ?_, hd.depth, hd.denotes⟩
        rw [htext, Padded.chars, List.append_assoc]
  · rintro ⟨⟨before, d, after⟩, htext, hdepth, hdenotes⟩
    have hstops : Stops after.chars := by
      have h := stops_gap after (s := []) (fun c rest hs => absurd hs (by simp))
      rwa [List.append_nil] at h
    have hread := hreader.complete ⟨hdepth, hdenotes⟩ before hstops
    have hend := readEnd_eq_ok_iff.mpr ⟨after, rfl⟩
    rw [← List.append_assoc] at hread
    rw [parse, readText, htext]
    simp only [Padded.chars, hread, hend]

/-- A text spells one value at most, however many derivations it has. -/
theorem Spells.unique {text : String} {v v' : Json} (h : Spells text v) (h' : Spells text v') :
    v = v' := by
  have hv := parse_eq_ok_iff.mpr h
  rw [parse_eq_ok_iff.mpr h'] at hv
  exact (Except.ok.inj hv).symm

end HttpGet.Json
