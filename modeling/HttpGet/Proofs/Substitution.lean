/-
Cutting a text around its placeholders.

A text can be written in one way only as literal segments with placeholders between them such
that no placeholder begins inside a segment.  Finding placeholders from left to right, each
with the shortest name, finds that split, so what a text becomes under an environment can be
read off the split: the segments stay, each name gives way to its value, and a name without a
value stays in its placeholder.

Two consequences serve texts that are put together from others.  A text without a dollar sign
is one segment wherever it stands, and a text in which every opening of a placeholder is
closed can be cut off from what follows it.
-/
import HttpGet.Config.Substitution
import Mathlib.Data.List.Infix
import Mathlib.Data.List.TakeWhile

namespace HttpGet.Substitution

/-! ### Splits -/

/-- The name in a placeholder: it has a character, and none that closes the placeholder. -/
structure Name where
  chars : List Char
  ne_nil : chars ≠ []
  not_closed : '}' ∉ chars

namespace Name

/-- The name of a variable. -/
def text (n : Name) : String := String.ofList n.chars

/-- The placeholder of a name. -/
def written (n : Name) : List Char := '$' :: '{' :: n.chars ++ ['}']

/-- What stands for a name: the value of its variable, or its placeholder if there is none. -/
def fill (env : Environment) (n : Name) : List Char :=
  match env n.text with
  | some value => value.toList
  | none => n.written

end Name

/-- Whether a placeholder begins a text. -/
def Begins (s : List Char) : Prop := ∃ (n : Name) (after : List Char), s = n.written ++ after

/-- Whether no placeholder begins at a character of a segment, reading on into the text
after it. -/
def IsLiteral (segment after : List Char) : Prop :=
  ∀ left right, segment = left ++ right → right ≠ [] → ¬ Begins (right ++ after)

/-- A text cut around placeholders: literal segments, which may be empty, with a placeholder
between each two. -/
inductive Split where
  | last (segment : List Char)
  | cut (segment : List Char) (name : Name) (rest : Split)

namespace Split

/-- The text of a split. -/
def text : Split → List Char
  | last segment => segment
  | cut segment name rest => segment ++ name.written ++ rest.text

/-- The names of the placeholders, in order. -/
def names : Split → List Name
  | last _ => []
  | cut _ name rest => name :: rest.names

/-- Whether no placeholder begins inside a segment. -/
def Proper : Split → Prop
  | last segment => IsLiteral segment []
  | cut segment name rest => IsLiteral segment (name.written ++ rest.text) ∧ rest.Proper

/-- The text of a split under an environment. -/
def fill (env : Environment) : Split → List Char
  | last segment => segment
  | cut segment name rest => segment ++ name.fill env ++ rest.fill env

/-- The parts of a split, a segment by its characters. -/
def parts : Split → List Part
  | last segment => segment.map .literal
  | cut segment name rest => segment.map .literal ++ .placeholder name.chars :: rest.parts

end Split

/-! ### The first placeholder -/

theorem placeholder?_written (n : Name) (after : List Char) :
    placeholder? (n.written ++ after) = some (n.chars, after) := by
  obtain ⟨chars, hne, hopen⟩ := n
  have hall : ∀ c ∈ chars, (decide (c ≠ '}')) = true := by
    intro c hc
    exact decide_eq_true fun h => hopen (h ▸ hc)
  have htake : (chars ++ '}' :: after).takeWhile (· ≠ '}') = chars := by
    rw [List.takeWhile_append_of_pos hall]
    simp
  have hdrop : (chars ++ '}' :: after).dropWhile (· ≠ '}') = '}' :: after := by
    rw [List.dropWhile_append_of_pos hall]
    simp
  obtain ⟨c, name, rfl⟩ := List.exists_cons_of_ne_nil hne
  simp only [Name.written, List.cons_append, List.append_assoc, List.nil_append, placeholder?]
    at htake hdrop ⊢
  rw [htake, hdrop]

theorem placeholder?_sound {s : List Char} {p : List Char × List Char}
    (h : placeholder? s = some p) : ∃ n : Name, n.chars = p.1 ∧ s = n.written ++ p.2 := by
  unfold placeholder? at h
  split at h
  · rename_i rest
    split at h
    · rename_i c chars d tail htake hdrop
      obtain rfl := Option.some.inj h
      have hd : d = '}' := by
        have hhead := List.head?_dropWhile_not (· ≠ '}') rest
        rw [hdrop] at hhead
        simpa using hhead
      have hopen : '}' ∉ c :: chars := by
        intro hmem
        rw [← htake] at hmem
        simpa using List.mem_takeWhile_imp hmem
      refine ⟨⟨c :: chars, List.cons_ne_nil _ _, hopen⟩, rfl, ?_⟩
      have hsplit := List.takeWhile_append_dropWhile (p := (· ≠ '}')) (l := rest)
      rw [htake, hdrop, hd] at hsplit
      rw [← hsplit]
      simp [Name.written]
    · simp at h
  · simp at h

theorem placeholder?_eq_none_iff {s : List Char} : placeholder? s = none ↔ ¬ Begins s := by
  constructor
  · rintro h ⟨n, after, rfl⟩
    rw [placeholder?_written] at h
    exact absurd h (by simp)
  · intro h
    cases hs : placeholder? s with
    | none => rfl
    | some p =>
        obtain ⟨n, -, hn⟩ := placeholder?_sound hs
        exact absurd ⟨n, p.2, hn⟩ h

/-! ### Parts -/

theorem parts_nil : parts [] = [] := by
  rw [parts]
  rfl

theorem parts_written (n : Name) (after : List Char) :
    parts (n.written ++ after) = .placeholder n.chars :: parts after := by
  rw [parts]
  split
  · rename_i name rest h
    have hname := h
    rw [placeholder?_written, Option.some.injEq, Prod.mk.injEq] at hname
    obtain ⟨rfl, rfl⟩ := hname
    rfl
  · rename_i h
    rw [placeholder?_written] at h
    exact absurd h (by simp)

theorem parts_cons {c : Char} {s : List Char} (h : ¬ Begins (c :: s)) :
    parts (c :: s) = .literal c :: parts s := by
  rw [parts]
  split
  · rename_i name rest hsome
    rw [placeholder?_eq_none_iff.mpr h] at hsome
    exact absurd hsome (by simp)
  · rfl

theorem isLiteral_nil (after : List Char) : IsLiteral [] after := by
  intro left right h hne
  exact absurd (List.append_eq_nil_iff.mp h.symm).2 hne

theorem isLiteral_cons {c : Char} {segment after : List Char} :
    IsLiteral (c :: segment) after ↔
      ¬ Begins (c :: segment ++ after) ∧ IsLiteral segment after := by
  constructor
  · intro h
    refine ⟨h [] (c :: segment) rfl (List.cons_ne_nil _ _), fun left right heq hne => ?_⟩
    exact h (c :: left) right (by rw [heq]; rfl) hne
  · rintro ⟨hfirst, hrest⟩ left right heq hne
    cases left with
    | nil =>
        rw [List.nil_append] at heq
        rwa [← heq]
    | cons d left =>
        rw [List.cons_append, List.cons.injEq] at heq
        exact hrest left right heq.2 hne

/-- A segment in which no placeholder begins stands for itself. -/
theorem parts_append_of_isLiteral {segment after : List Char} (h : IsLiteral segment after) :
    parts (segment ++ after) = segment.map .literal ++ parts after := by
  induction segment with
  | nil => rfl
  | cons c segment ih =>
      obtain ⟨hfirst, hrest⟩ := isLiteral_cons.mp h
      rw [List.cons_append, parts_cons (by simpa using hfirst), ih hrest]
      rfl

/-! ### The split of a text -/

namespace Split

/-- The parts of a text are those of any proper split. -/
theorem parts_text {x : Split} (h : x.Proper) : Substitution.parts x.text = x.parts := by
  induction x with
  | last segment =>
      have hparts : Substitution.parts (segment ++ []) = _ := parts_append_of_isLiteral h
      rwa [List.append_nil, parts_nil, List.append_nil] at hparts
  | cut segment name rest ih =>
      rw [text, List.append_assoc, parts_append_of_isLiteral h.1, parts_written, ih h.2, parts]

/-- A split with one more character in front. -/
def push (c : Char) : Split → Split
  | last segment => last (c :: segment)
  | cut segment name rest => cut (c :: segment) name rest

theorem text_push (c : Char) (x : Split) : (x.push c).text = c :: x.text := by
  cases x <;> rfl

theorem proper_push {c : Char} {x : Split} (hx : x.Proper) (h : ¬ Begins (c :: x.text)) :
    (x.push c).Proper := by
  cases x with
  | last segment => exact isLiteral_cons.mpr ⟨by simpa [text] using h, hx⟩
  | cut segment name rest => exact ⟨isLiteral_cons.mpr ⟨by simpa [text] using h, hx.1⟩, hx.2⟩

/-- Every text has a proper split. -/
theorem exists_proper (s : List Char) : ∃ x : Split, x.text = s ∧ x.Proper := by
  induction hlen : s.length using Nat.strongRecOn generalizing s with
  | ind k ih =>
      subst hlen
      cases hs : placeholder? s with
      | some p =>
          obtain ⟨n, -, hn⟩ := placeholder?_sound hs
          obtain ⟨x, htext, hproper⟩ := ih _ (length_of_placeholder? hs) p.2 rfl
          refine ⟨cut [] n x, ?_, isLiteral_nil _, hproper⟩
          rw [text, htext, hn, List.nil_append]
      | none =>
          cases s with
          | nil => exact ⟨last [], rfl, isLiteral_nil _⟩
          | cons c s =>
              obtain ⟨x, rfl, hproper⟩ := ih s.length (Nat.lt_succ_self _) s rfl
              exact ⟨x.push c, text_push c x,
                proper_push hproper (placeholder?_eq_none_iff.mp hs)⟩

theorem literals_inj {a b : List Char} {m n : List Char} {p q : List Part}
    (h : a.map Part.literal ++ .placeholder m :: p = b.map .literal ++ .placeholder n :: q) :
    a = b ∧ m = n ∧ p = q := by
  induction a generalizing b with
  | nil =>
      cases b with
      | nil => simpa using h
      | cons c b => simp at h
  | cons c a ih =>
      cases b with
      | nil => simp at h
      | cons d b =>
          simp only [List.map_cons, List.cons_append, List.cons.injEq, Part.literal.injEq] at h
          obtain ⟨hab, hmn⟩ := ih h.2
          exact ⟨by rw [h.1, hab], hmn⟩

theorem literals_ne {a b : List Char} {n : List Char} {q : List Part} :
    a.map Part.literal ≠ b.map .literal ++ .placeholder n :: q := by
  intro h
  have hmem : Part.placeholder n ∈ a.map Part.literal := by rw [h]; simp
  simp at hmem

/-- The parts of a split show where it is cut. -/
theorem parts_injective : Function.Injective parts := by
  intro x y h
  induction x generalizing y with
  | last segment =>
      cases y with
      | last segment' =>
          exact congrArg last ((List.map_inj_right fun _ _ => Part.literal.inj).mp h)
      | cut segment' name' rest' => exact absurd h literals_ne
  | cut segment name rest ih =>
      cases y with
      | last segment' => exact absurd h.symm literals_ne
      | cut segment' name' rest' =>
          obtain ⟨hsegment, hname, hrest⟩ := literals_inj h
          obtain rfl : name = name' := by
            cases name
            cases name'
            simpa using hname
          rw [hsegment, ih hrest]

/-- The parts of a split stand for what its segments and names stand for. -/
theorem flatMap_fill_parts (env : Environment) (x : Split) :
    x.parts.flatMap (Part.fill env) = x.fill env := by
  have hliteral (s : List Char) : (s.map Part.literal).flatMap (Part.fill env) = s := by
    rw [List.flatMap_map]
    exact List.flatMap_singleton' s
  induction x with
  | last segment => exact hliteral segment
  | cut segment name rest ih =>
      rw [parts, List.flatMap_append, List.flatMap_cons, hliteral, ih, fill, List.append_assoc]
      rfl

/-- A split under an environment depends on the variables that it names. -/
theorem fill_congr {env env' : Environment} {x : Split}
    (h : ∀ n ∈ x.names, env n.text = env' n.text) : x.fill env = x.fill env' := by
  induction x with
  | last segment => rfl
  | cut segment name rest ih =>
      rw [names, List.forall_mem_cons] at h
      rw [fill, fill, ih h.2, Name.fill, Name.fill, h.1]

end Split

/-! ### Texts under an environment -/

/-- Characters with their placeholders filled. -/
def filled (env : Environment) (s : List Char) : List Char := (parts s).flatMap (Part.fill env)

theorem filled_nil (env : Environment) : filled env [] = [] := by
  rw [filled, parts_nil]
  rfl

theorem filled_text (env : Environment) {x : Split} (h : x.Proper) :
    filled env x.text = x.fill env := by
  rw [filled, Split.parts_text h, Split.flatMap_fill_parts]

theorem toList_substitute (env : Environment) (text : String) :
    (substitute env text).toList = filled env text.toList := String.toList_ofList

theorem substitute_of_proper (env : Environment) {text : String} {x : Split}
    (htext : x.text = text.toList) (h : x.Proper) :
    substitute env text = String.ofList (x.fill env) := by
  rw [← filled_text env h, htext]
  rfl

/-- **A text has one split into literal segments in which no placeholder begins, and
placeholders between them.  Under an environment each placeholder of it gives way to the value
of its name, if there is one, and all else stays; so the text depends on the variables that it
names.  A name may be any characters but the closing brace.** -/
theorem substitute_eq_fill_split :
    (∀ text : String, ∃ x : Split, (x.text = text.toList ∧ x.Proper) ∧
      (∀ y : Split, y.text = text.toList → y.Proper → y = x) ∧
      (∀ env, substitute env text = String.ofList (x.fill env)) ∧
      ∀ env env' : Environment, (∀ n ∈ x.names, env n.text = env' n.text) →
        substitute env text = substitute env' text) ∧
    ∀ (n : Name) (env : Environment),
      substitute env (String.ofList n.written) = String.ofList (n.fill env) := by
  constructor
  · intro text
    obtain ⟨x, htext, hproper⟩ := Split.exists_proper text.toList
    have hfill (env : Environment) := substitute_of_proper env htext hproper
    refine ⟨x, ⟨htext, hproper⟩, ?_, hfill, ?_⟩
    · intro y hy hyproper
      apply Split.parts_injective
      rw [← Split.parts_text hyproper, ← Split.parts_text hproper, hy, htext]
    · intro env env' h
      rw [hfill env, hfill env', Split.fill_congr h]
  · intro n env
    have htext : (Split.cut [] n (.last [])).text = (String.ofList n.written).toList := by
      simp [Split.text]
    rw [substitute_of_proper env htext ⟨isLiteral_nil _, isLiteral_nil _⟩]
    simp [Split.fill]

/-! ### Texts put together -/

theorem isLiteral_of_not_mem {segment : List Char} (h : '$' ∉ segment) (after : List Char) :
    IsLiteral segment after := by
  rintro left right rfl hne ⟨n, tail, hbegins⟩
  cases right with
  | nil => exact hne rfl
  | cons c right =>
      rw [Name.written, List.cons_append, List.cons_append, List.cons_append,
        List.cons.injEq] at hbegins
      exact h (by simp [hbegins.1])

theorem filled_append_of_not_mem (env : Environment) {s : List Char} (h : '$' ∉ s)
    (after : List Char) : filled env (s ++ after) = s ++ filled env after := by
  rw [filled, parts_append_of_isLiteral (isLiteral_of_not_mem h after), List.flatMap_append,
    List.flatMap_map]
  exact congrArg (· ++ filled env after) (List.flatMap_singleton' s)

/-- A text without a dollar sign is the same under every environment. -/
theorem substitute_of_not_mem (env : Environment) {text : String} (h : '$' ∉ text.toList) :
    substitute env text = text := by
  apply String.toList_inj.mp
  rw [toList_substitute]
  have hfilled := filled_append_of_not_mem env h []
  rwa [List.append_nil, filled_nil, List.append_nil] at hfilled

/-- Whether every opening of a placeholder is closed later in the text. -/
def Closed (s : List Char) : Prop :=
  ∀ left right, s = left ++ '$' :: '{' :: right → '}' ∈ right

/-- Whether a placeholder that is opened at the start of a text is closed. -/
def closesFirst : List Char → Bool
  | '$' :: '\x7b' :: right => right.contains '\x7d'
  | _ => true

theorem closed_iff {s : List Char} : Closed s ↔ ∀ t ∈ s.tails, closesFirst t = true := by
  constructor
  · intro h t ht
    obtain ⟨left, rfl⟩ := (List.mem_tails t s).mp ht
    unfold closesFirst
    split
    · rename_i right
      exact List.contains_iff_mem.mpr (h left right rfl)
    · rfl
  · rintro h left right rfl
    exact List.contains_iff_mem.mp (h ('$' :: '\x7b' :: right) (by simp))

instance (s : List Char) : Decidable (Closed s) := decidable_of_iff _ closed_iff.symm

theorem Closed.of_append {s after : List Char} (h : Closed (s ++ after)) : Closed after := by
  rintro left right rfl
  exact h (s ++ left) right (List.append_assoc ..).symm

/-- A placeholder that begins a closed text and what follows ends in the closed text. -/
theorem begins_of_begins_append {d c : Char} {s after : List Char} (h : Closed (d :: s))
    (hc : c ≠ '{') (hbegins : Begins (d :: s ++ c :: after)) : Begins (d :: s) := by
  obtain ⟨n, tail, heq⟩ := hbegins
  simp only [Name.written, List.cons_append, List.append_assoc, List.nil_append,
    List.cons.injEq] at heq
  obtain ⟨rfl, heq⟩ := heq
  cases s with
  | nil => exact absurd (List.cons.inj heq).1 hc
  | cons b s =>
      rw [List.cons_append, List.cons.injEq] at heq
      obtain ⟨rfl, heq⟩ := heq
      have hclose : '}' ∈ s := h [] s rfl
      rcases List.append_eq_append_iff.mp heq with ⟨m, hname, -⟩ | ⟨m, hs, hm⟩
      · exact absurd (by rw [hname]; exact List.mem_append_left m hclose) n.not_closed
      · cases m with
        | nil =>
            rw [List.append_nil] at hs
            exact absurd (hs ▸ hclose) n.not_closed
        | cons e m =>
            rw [List.cons_append, List.cons.injEq] at hm
            refine ⟨n, m, ?_⟩
            rw [hs, ← hm.1]
            simp [Name.written]

/-- A closed text can be cut off from what follows it. -/
theorem parts_append_of_closed {s : List Char} (h : Closed s) {c : Char} (hc : c ≠ '{')
    (after : List Char) : parts (s ++ c :: after) = parts s ++ parts (c :: after) := by
  induction hlen : s.length using Nat.strongRecOn generalizing s with
  | ind k ih =>
      subst hlen
      cases hs : placeholder? s with
      | some p =>
          obtain ⟨n, -, hn⟩ := placeholder?_sound hs
          have hrest := ih _ (length_of_placeholder? hs) (Closed.of_append (hn ▸ h)) rfl
          rw [hn, List.append_assoc, parts_written, parts_written, hrest, List.cons_append]
      | none =>
          cases s with
          | nil => rw [parts_nil, List.nil_append, List.nil_append]
          | cons d s =>
              have hfirst : ¬ Begins (d :: s) := placeholder?_eq_none_iff.mp hs
              have hlonger : ¬ Begins (d :: (s ++ c :: after)) :=
                fun hbegins => hfirst (begins_of_begins_append h hc hbegins)
              have hrest := ih s.length (Nat.lt_succ_self _) (Closed.of_append (s := [d]) h) rfl
              rw [List.cons_append, parts_cons hlonger, parts_cons hfirst, hrest,
                List.cons_append]

theorem filled_append_of_closed (env : Environment) {s : List Char} (h : Closed s) {c : Char}
    (hc : c ≠ '{') (after : List Char) :
    filled env (s ++ c :: after) = filled env s ++ filled env (c :: after) := by
  rw [filled, parts_append_of_closed h hc, List.flatMap_append, filled, filled]

/-- What holds of the characters of a text and of all values holds of the filled text. -/
theorem forall_mem_filled {p : Char → Prop} {env : Environment} {s : List Char}
    (hs : ∀ c ∈ s, p c) (henv : ∀ name value, env name = some value → ∀ c ∈ value.toList, p c) :
    ∀ c ∈ filled env s, p c := by
  obtain ⟨x, rfl, hproper⟩ := Split.exists_proper s
  rw [filled_text env hproper]
  clear hproper
  induction x with
  | last segment => exact hs
  | cut segment name rest ih =>
      simp only [Split.text, List.forall_mem_append] at hs
      have hname : ∀ c ∈ name.fill env, p c := by
        rw [Name.fill]
        split
        · rename_i value hvalue
          exact henv _ value hvalue
        · exact hs.1.2
      simp only [Split.fill, List.forall_mem_append]
      exact ⟨⟨hs.1.1, hname⟩, ih hs.2⟩

end HttpGet.Substitution
