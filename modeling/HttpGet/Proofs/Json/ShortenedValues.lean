/-
Values that are cut short.

Lists and objects are read by one loop that differs in its brackets only, so both readers are shown
to be `Brackets.readEach` and the loop is cut once.  The first part has less text and may be read
with less fuel than the whole: the induction is on the fuel of the whole, and its invariant is that
the fuel of the first part exceeds what is left of it.  An item that is cut is the last of the first
part, and then the list runs out behind it.
-/
import HttpGet.Proofs.Json.Acceptance
import HttpGet.Proofs.Json.Shortening

namespace HttpGet.Json

/-! ### Elements of lists and objects -/

/-- Begin an element behind white space, if the text does not end there. -/
def beginElement (cause : Cause) (begin : Char → List Char → Scan Bool) (s : List Char) :
    Scan Bool :=
  match skipSpace s with
  | [] => .error (.here cause [])
  | c :: r => begin c r

theorem beginElement_anchored {cause : Cause} {begin : Char → List Char → Scan Bool}
    (hcause : cause.ofTruncation = true) (hbegin : ∀ c, Anchored (begin c)) :
    Anchored (beginElement cause begin) := by
  intro s t
  unfold beginElement
  cases hs : skipSpace s with
  | nil => exact .out _ hcause
  | cons c r =>
      rw [skipSpace_append t hs]
      exact hbegin c r t

theorem of_beginElement {cause : Cause} {begin : Char → List Char → Scan Bool} {s rest : List Char}
    {more : Bool} (h : beginElement cause begin s = .ok (more, rest)) :
    ∃ c r, begin c r = .ok (more, rest) ∧ r.length + 1 ≤ s.length := by
  have hskip : (skipSpace s).length ≤ s.length := (List.dropWhile_sublist isSpace).length_le
  unfold beginElement at h
  split at h
  · simp at h
  · rename_i c r hs
    rw [hs] at hskip
    exact ⟨c, r, h, hskip⟩

/-- What a list and an object differ in: what is said where the text ends behind an element, the
bracket that closes them, what is said where neither it nor a comma stands, and how an element
begins. -/
structure Brackets where
  ends : Cause
  close : Char
  commaExpected : Cause
  begin : Char → List Char → Scan Bool
  truncation : ends.ofTruncation = true
  anchored : ∀ c, Anchored (begin c)
  begins : ∀ {c r more rest}, begin c r = .ok (more, rest) →
    more = true ∧ rest.length ≤ r.length + 1

namespace Brackets

/-- The items of a list. -/
def list : Brackets where
  ends := .endInList
  close := ']'
  commaExpected := .listCommaOrEndExpected
  begin c r := .ok (true, c :: r)
  truncation := rfl
  anchored c s _ := .same true (c :: s)
  begins h := by
    simp only [Except.ok.injEq, Prod.mk.injEq] at h
    rw [← h.2, List.length_cons]
    exact ⟨h.1.symm, Nat.le_refl _⟩

/-- The members of an object. -/
def object : Brackets where
  ends := .endInObject
  close := '}'
  commaExpected := .objectCommaOrEndExpected
  begin c r := if c = '"' then .ok (true, r) else .error (.ahead .keyExpected (c :: r))
  truncation := rfl
  anchored c s _ := .ite (fun _ => .same true s) fun _ => .refused _ _
  begins h := by
    split at h
    · simp only [Except.ok.injEq, Prod.mk.injEq] at h
      rw [← h.2]
      exact ⟨h.1.symm, Nat.le_succ _⟩
    · simp at h

/-- Step into the next element, with whether there is one. -/
def step (b : Brackets) (first : Bool) : List Char → Scan Bool :=
  beginElement b.ends fun c r =>
    if c = b.close then .ok (false, c :: r)
    else if first then b.begin c r
    else if c = ',' then
      beginElement .endInValue (fun d r =>
        if d = b.close then .error (.ahead .trailingComma (d :: r)) else b.begin d r) r
    else .error (.ahead b.commaExpected (c :: r))

theorem step_anchored (b : Brackets) (first : Bool) : Anchored (b.step first) := by
  refine beginElement_anchored b.truncation fun c s t => ?_
  refine .ite (fun _ => .same false (c :: s)) fun _ => ?_
  refine .ite (fun _ => b.anchored c s t) fun _ => .ite (fun _ => ?_) fun _ => .refused _ _
  refine beginElement_anchored rfl (fun d s t => ?_) s t
  exact .ite (fun _ => .refused _ _) fun _ => b.anchored d s t

/-- A step reads no text back, and where there is no element it stops before a bracket. -/
theorem of_step (b : Brackets) {first more : Bool} {s rest : List Char}
    (h : b.step first s = .ok (more, rest)) :
    rest.length ≤ s.length ∧ (more = false → rest ≠ []) := by
  have hbegin : ∀ {c r}, b.begin c r = .ok (more, rest) →
      rest.length ≤ r.length + 1 ∧ (more = false → rest ≠ []) := by
    intro c r h
    obtain ⟨rfl, hle⟩ := b.begins h
    exact ⟨hle, fun hmore => absurd hmore (by simp)⟩
  obtain ⟨c, r, h, hle⟩ := of_beginElement h
  split at h
  · simp only [Except.ok.injEq, Prod.mk.injEq] at h
    obtain ⟨rfl, rfl⟩ := h
    exact ⟨hle, fun _ => List.cons_ne_nil c r⟩
  split at h
  · exact (hbegin h).imp_left fun hlen => Nat.le_trans hlen hle
  split at h
  · obtain ⟨d, r', h, hle'⟩ := of_beginElement h
    split at h
    · simp at h
    · exact (hbegin h).imp_left fun hlen => by omega
  · simp at h

/-- Read elements, with a step into each of them. -/
def readEach {α : Type} (b : Brackets) (element : List Char → Scan α) :
    (fuel : Nat) → (first : Bool) → List Char → Scan (List α)
  | 0, _, s => .error (.here b.ends s)
  | fuel + 1, first, s =>
    andThen (b.step first s) fun more s =>
      if more then
        andThen (element s) fun v s =>
          andThen (b.readEach element fuel false s) fun vs s => .ok (v :: vs, s)
      else .ok ([], s)

theorem readEach_nil {α : Type} (b : Brackets) (element : List Char → Scan α) (fuel : Nat) :
    b.readEach element fuel false [] = .error (.here b.ends []) := by
  cases fuel <;> rfl

/-- Elements are read up to a bracket. -/
theorem ne_nil_of_readEach {α : Type} {b : Brackets} {element : List Char → Scan α} {fuel : Nat}
    {first : Bool} {s rest : List Char} {vs : List α}
    (h : b.readEach element fuel first s = .ok (vs, rest)) : rest ≠ [] := by
  induction fuel generalizing first s vs with
  | zero => simp [readEach] at h
  | succ fuel ih =>
      obtain ⟨more, r, hstep, h⟩ := exists_of_andThen h
      cases more with
      | false =>
          simp only [Bool.false_eq_true, if_false, Except.ok.injEq, Prod.mk.injEq] at h
          exact h.2 ▸ (b.of_step hstep).2 rfl
      | true =>
          rw [if_pos rfl] at h
          obtain ⟨v, r', -, h⟩ := exists_of_andThen h
          obtain ⟨vs', r'', hrest, h⟩ := exists_of_andThen h
          obtain ⟨-, rfl⟩ := Prod.mk.inj (Except.ok.inj h)
          exact ih hrest

end Brackets

/-- A reader leaves less text than it is given. -/
def Shrinks {α : Type} (reader : List Char → Scan α) : Prop :=
  ∀ {s rest : List Char} {v : α}, reader s = .ok (v, rest) → rest.length < s.length

/-- With fuel for all of it, the first part of a text is read element by element as the whole is.
Where an element is cut, none comes behind it. -/
theorem Brackets.readEach_shortens {α : Type} (b : Brackets) {element : List Char → Scan α}
    (helement : Shortens Ever element) (hshrinks : Shrinks element) (fuel : Nat) {fuel' : Nat}
    (first : Bool) {s : List Char} (t : List Char) (hfuel : s.length < fuel') :
    Shortened Never t (b.readEach element fuel first (s ++ t)) (b.readEach element fuel' first s) := by
  induction fuel generalizing fuel' first s with
  | zero => exact .refused _ _
  | succ fuel ih =>
      obtain ⟨fuel', rfl⟩ := Nat.exists_eq_add_one.mpr (Nat.zero_lt_of_lt hfuel)
      rw [readEach, readEach]
      refine (b.step_anchored first s t).thenScan fun more r hr => .ite (fun _ => ?_) fun _ =>
        .same [] r
      have hle := (b.of_step hr).1
      refine (helement r t).andThen (fun v r' hv => ?_) fun v v' rest _ => ?_
      · have hlt := hshrinks hv
        exact (ih false (by omega)).thenScan fun vs r'' _ => .same (v :: vs) r''
      · rw [readEach_nil]
        exact .out _ b.truncation

theorem list_step (first : Bool) (s : List Char) :
    Brackets.list.step first s = match nextItem first s with
      | .error f => .error f
      | .ok none => .ok (false, skipSpace s)
      | .ok (some r) => .ok (true, r) := by
  unfold Brackets.step beginElement nextItem Brackets.list
  rcases skipSpace s with _ | ⟨c, r⟩
  · rfl
  by_cases hclose : c = ']'
  · simp [hclose]
  cases first with
  | true => simp [hclose]
  | false =>
      by_cases hcomma : c = ','
      · subst hcomma
        rcases hr : skipSpace r with _ | ⟨d, r'⟩
        · simp [hr]
        · by_cases hend : d = ']' <;> simp [hr, hend]
      · simp [hclose, hcomma]

theorem object_step (first : Bool) (s : List Char) :
    Brackets.object.step first s = match nextKey first s with
      | .error f => .error f
      | .ok none => .ok (false, skipSpace s)
      | .ok (some r) => .ok (true, r) := by
  unfold Brackets.step beginElement nextKey Brackets.object
  rcases skipSpace s with _ | ⟨c, r⟩
  · rfl
  by_cases hclose : c = '}'
  · simp [hclose]
  cases first with
  | true => by_cases hquote : c = '"' <;> simp [hclose, hquote]
  | false =>
      by_cases hcomma : c = ','
      · subst hcomma
        rcases hr : skipSpace r with _ | ⟨d, r'⟩
        · simp [hr]
        by_cases hquote : d = '"'
        · simp [hr, hquote]
        · by_cases hend : d = '}' <;> simp [hr, hquote, hend]
      · simp [hclose, hcomma]

theorem readItems_eq {α : Type} (item : List Char → Scan α) (fuel : Nat) (first : Bool)
    (s : List Char) : readItems item fuel first s = Brackets.list.readEach item fuel first s := by
  induction fuel generalizing first s with
  | zero => rfl
  | succ fuel ih =>
      rw [readItems, Brackets.readEach, list_step]
      rcases nextItem first s with f | _ | r
      · rfl
      · rfl
      dsimp only [andThen]
      rw [if_pos rfl]
      rcases item r with f | ⟨v, r⟩
      · rfl
      dsimp only
      rw [ih]
      rcases Brackets.list.readEach item fuel false r with f | ⟨vs, r⟩ <;> rfl

/-- Read the key and the value of a member. -/
def readMember {α : Type} (value : List Char → Scan α) (s : List Char) : Scan (String × α) :=
  andThen (readKey s) fun key s => andThen (value s) fun v s => .ok ((key, v), s)

theorem readMembers_eq {α : Type} (value : List Char → Scan α) (fuel : Nat) (first : Bool)
    (s : List Char) :
    readMembers value fuel first s = Brackets.object.readEach (readMember value) fuel first s := by
  induction fuel generalizing first s with
  | zero => rfl
  | succ fuel ih =>
      rw [readMembers, Brackets.readEach, object_step]
      rcases nextKey first s with f | _ | r
      · rfl
      · rfl
      dsimp only [andThen, readMember]
      rw [if_pos rfl]
      rcases readKey r with f | ⟨key, r⟩
      · rfl
      dsimp only
      rcases value r with f | ⟨v, r⟩
      · rfl
      dsimp only
      rw [ih]
      rcases Brackets.object.readEach (readMember value) fuel false r with f | ⟨vs, r⟩ <;> rfl

/-! ### Members -/

theorem readColon_anchored : Anchored readColon := by
  intro s t
  cases hs : skipSpace s with
  | nil =>
      rw [show readColon s = .error (.here .endInObject []) by rw [readColon, hs]]
      exact .out _ rfl
  | cons c r =>
      have hst := skipSpace_append t hs
      by_cases hc : c = ':'
      · subst hc
        rw [readColon, readColon, hst, hs]
        exact .same () r
      · rw [show readColon (s ++ t) = .error (.ahead .colonExpected (c :: (r ++ t))) by
          simp [readColon, hst, hc]]
        exact .refused _ _

theorem readKey_eq (s : List Char) :
    readKey s = andThen (stringBody s) fun key s =>
      andThen (readColon s) fun _ s => .ok (String.ofList key, s) := by
  rw [readKey]
  rcases stringBody s with f | ⟨key, r⟩
  · rfl
  dsimp only [andThen]
  rcases readColon r with f | ⟨_, r⟩ <;> rfl

theorem readKey_anchored : Anchored readKey := by
  intro s t
  rw [readKey_eq, readKey_eq]
  exact (stringBody_anchored s t).thenScan fun key r _ =>
    (readColon_anchored r t).thenScan fun _ r _ => .same _ r

theorem readMember_shortens {α : Type} {value : List Char → Scan α} (h : Shortens Ever value) :
    Shortens Ever (readMember value) := by
  intro s t
  refine (readKey_anchored s t).thenScan fun key r _ => ?_
  exact (h r t).andThen (fun v r _ => .same (key, v) r) fun v v' rest _ => .less rest trivial

theorem readMember_shrinks {α : Type} {value : List Char → Scan α} (h : Shrinks value) :
    Shrinks (readMember value) := by
  intro s rest kv hread
  obtain ⟨key, r, hkey, hmember⟩ := exists_of_andThen hread
  obtain ⟨v, r', hvalue, hok⟩ := exists_of_andThen hmember
  obtain ⟨ps, gap, -, hs⟩ := readKey_sound hkey
  have hlt := h hvalue
  rw [← (Prod.mk.inj (Except.ok.inj hok)).2, hs]
  simp only [List.length_append, List.length_cons]
  omega

/-! ### Values -/

theorem readWord_eq (letters : String) (value : Json) (s : List Char) :
    readWord letters value s = andThen (word letters.toList s) fun _ s => .ok (value, s) := by
  unfold readWord andThen
  cases word letters.toList s <;> rfl

theorem readWord_shortens (letters : String) (value : Json) :
    Shortens Ever (readWord letters value) := by
  intro s t
  rw [readWord_eq, readWord_eq]
  exact (word_anchored _ s t).thenScan fun _ r _ => .same value r

theorem readValue_shrinks (depth : Nat) : Shrinks (readValue depth) := by
  intro s rest v h
  cases depth with
  | zero => simp [readValue] at h
  | succ n =>
      obtain ⟨gap, d, rfl, -⟩ := (readValue_accords n).sound h
      obtain ⟨c, cs, hd, -⟩ := d.chars_eq_cons
      rw [hd]
      simp only [List.length_append, List.length_cons]
      omega

theorem closing_eq {α β : Type} (f : α → β) (x : Scan α) :
    closing f x = andThen x fun v s => .ok (f v, s.tail) := by
  rcases x with e | ⟨v, s⟩ <;> rfl

theorem closing_shortened {α β : Type} {f : α → β} {t : List Char} {x x' : Scan α}
    (h : Shortened Never t x x') (hx : ∀ v r, x' = .ok (v, r) → r ≠ []) :
    Shortened Ever t (closing f x) (closing f x') := by
  rw [closing_eq, closing_eq]
  refine h.thenScan fun v r hr => ?_
  rw [List.tail_append_of_ne_nil (hx v r hr)]
  exact .same (f v) r.tail

theorem readValue_skipSpace (depth : Nat) (s : List Char) :
    readValue (depth + 1) (skipSpace s) = readValue (depth + 1) s := by
  obtain ⟨gap, hgap⟩ := exists_gap s
  conv_rhs => rw [hgap, readValue_gap]

theorem readValue_quote (depth : Nat) (s : List Char) :
    readValue (depth + 1) ('"' :: s) =
      andThen (stringBody s) fun cs s => .ok (.text (String.ofList cs), s) := by
  rw [readValue, skipSpace_cons (by decide)]
  rcases hbody : stringBody s with f | ⟨cs, r⟩
  · simp only [hbody, andThen]
  · simp only [hbody, andThen]

theorem readValue_bracket (depth : Nat) (s : List Char) :
    readValue (depth + 1) ('[' :: s) = if depth = 0 then .error (.ahead .tooDeep ('[' :: s))
      else closing .array (Brackets.list.readEach (readValue depth) (s.length + 1) true s) := by
  rw [readValue, skipSpace_cons (by decide), ← readItems_eq]
  rfl

theorem readValue_brace (depth : Nat) (s : List Char) :
    readValue (depth + 1) ('{' :: s) = if depth = 0 then .error (.ahead .tooDeep ('{' :: s))
      else closing ofMembers
        (Brackets.object.readEach (readMember (readValue depth)) (s.length + 1) true s) := by
  rw [readValue, skipSpace_cons (by decide), ← readMembers_eq]
  rfl

/-- What begins with no letter, quote or bracket is a number, if it is anything. -/
theorem readValue_other (depth : Nat) {c : Char} (hspace : isSpace c = false)
    (hc : c ∉ ['n', 't', 'f', '"', '[', '{']) (s : List Char) :
    readValue (depth + 1) (c :: s) = if c = '-' || c.isDigit then
      andThen (readNumber (c :: s)) fun n s => .ok (.number n, s)
      else .error (.ahead .valueExpected (c :: s)) := by
  simp only [List.mem_cons, List.not_mem_nil, or_false, not_or] at hc
  obtain ⟨hnull, htrue, hfalse, hquote, hlist, hobject⟩ := hc
  rw [readValue, skipSpace_cons hspace]
  split
  · rename_i heq
    exact absurd heq (by simp)
  all_goals rename_i heq
  all_goals obtain ⟨rfl, rfl⟩ := List.cons.inj heq
  · exact absurd rfl hnull
  · exact absurd rfl htrue
  · exact absurd rfl hfalse
  · exact absurd rfl hquote
  · exact absurd rfl hlist
  · exact absurd rfl hobject
  · congr 1
    rcases readNumber (c :: s) with f | ⟨n, r⟩ <;> rfl

theorem readValue_shortens (depth : Nat) : Shortens Ever (readValue depth) := by
  induction depth with
  | zero => exact fun s t => .refused _ _
  | succ depth ih =>
      intro s t
      cases hs : skipSpace s with
      | nil =>
          rw [show readValue (depth + 1) s = .error (.here .endInValue []) by rw [readValue, hs]]
          exact .out _ rfl
      | cons c r =>
          have hspace : isSpace c = false := by
            have hhead := List.head?_dropWhile_not isSpace s
            rwa [← skipSpace, hs] at hhead
          rw [← readValue_skipSpace, ← readValue_skipSpace depth s, skipSpace_append t hs, hs]
          by_cases hnull : c = 'n'
          · subst hnull
            exact readWord_shortens "ull" .null r t
          by_cases htrue : c = 't'
          · subst htrue
            exact readWord_shortens "rue" (.flag true) r t
          by_cases hfalse : c = 'f'
          · subst hfalse
            exact readWord_shortens "alse" (.flag false) r t
          by_cases hquote : c = '"'
          · subst hquote
            rw [readValue_quote, readValue_quote]
            exact (stringBody_anchored r t).thenScan fun cs r _ => .same _ r
          by_cases hlist : c = '['
          · subst hlist
            rw [readValue_bracket, readValue_bracket]
            refine .ite (fun _ => .refused _ _) fun _ => closing_shortened ?_ fun _ _ h =>
              Brackets.ne_nil_of_readEach h
            exact Brackets.list.readEach_shortens ih (readValue_shrinks depth) _ true t
              (Nat.lt_succ_self _)
          by_cases hobject : c = '{'
          · subst hobject
            rw [readValue_brace, readValue_brace]
            refine .ite (fun _ => .refused _ _) fun _ => closing_shortened ?_ fun _ _ h =>
              Brackets.ne_nil_of_readEach h
            exact Brackets.object.readEach_shortens (readMember_shortens ih)
              (readMember_shrinks (readValue_shrinks depth)) _ true t (Nat.lt_succ_self _)
          rw [readValue_other depth hspace (by simp_all), readValue_other depth hspace (by simp_all)]
          refine .ite (fun _ => ?_) fun _ => .refused _ _
          exact (readNumber_shortens (c :: r) t).andThen (fun n r _ => .same _ r)
            fun n n' rest _ => .less rest trivial

end HttpGet.Json
