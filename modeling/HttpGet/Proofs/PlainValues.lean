/-
Plain values are filled in once and for all.

Filling a text can put new placeholders into it: a value may hold one, and characters that a
placeholder kept apart may come together to be one.  A plain value does neither.  It is not
empty, so nothing comes together across it, and none of its characters belongs to a
placeholder.

So what a split leaves behind when plain values are put into it is a split again
(`Split.settle`): the values have become part of the segments, and the placeholders that stay
are those whose variable is not set.  That no placeholder begins inside a segment carries over
because of what a segment before a placeholder looks like.  Every placeholder that is opened in
it is closed in it, as otherwise it would end with the next one; so what follows the segment has
no part in it, except for a brace right after the segment.
-/
import HttpGet.Proofs.Substitution

namespace HttpGet

namespace Substitution

/-! ### Segments before other texts -/

theorem Begins.append {s : List Char} (h : Begins s) (after : List Char) : Begins (s ++ after) := by
  obtain ⟨n, tail, rfl⟩ := h
  exact ⟨n, tail ++ after, List.append_assoc _ _ _⟩

theorem isLiteral_append {a b after : List Char} :
    IsLiteral (a ++ b) after ↔ IsLiteral a (b ++ after) ∧ IsLiteral b after := by
  induction a with
  | nil =>
      rw [List.nil_append]
      exact ⟨fun h => ⟨isLiteral_nil _, h⟩, fun h => h.2⟩
  | cons c a ih =>
      rw [List.cons_append, isLiteral_cons, isLiteral_cons, ih, List.cons_append, List.cons_append,
        List.append_assoc, and_assoc]

/-- A segment before a placeholder closes what it opens: otherwise a placeholder would begin in
it that ends where the one after it does. -/
theorem closed_of_isLiteral {segment more : List Char} {n : Name}
    (h : IsLiteral segment (n.written ++ more)) : Closed segment := by
  intro left right hsegment
  by_contra hopen
  have hchars : '}' ∉ right ++ '$' :: '{' :: n.chars := by
    intro hmem
    rcases List.mem_append.mp hmem with hmem | hmem
    · exact hopen hmem
    · rcases List.mem_cons.mp hmem with hdollar | hmem
      · exact absurd hdollar (by decide)
      · rcases List.mem_cons.mp hmem with hbrace | hmem
        · exact absurd hbrace (by decide)
        · exact n.not_closed hmem
  refine h left ('$' :: '{' :: right) hsegment (List.cons_ne_nil _ _) ?_
  refine ⟨⟨right ++ '$' :: '{' :: n.chars, by simp, hchars⟩, more, ?_⟩
  simp [Name.written]

/-- A segment that closes what it opens stays a segment before any text that does not begin with
a brace. -/
theorem Closed.isLiteral {segment after after' : List Char} (h : Closed segment)
    (hliteral : IsLiteral segment after) (hbrace : after'.head? ≠ some '{') :
    IsLiteral segment after' := by
  intro left right hsegment hne hbegins
  refine hliteral left right hsegment hne (Begins.append ?_ after)
  have hright : Closed right := Closed.of_append (hsegment ▸ h)
  cases right with
  | nil => exact absurd rfl hne
  | cons d right =>
      cases after' with
      | nil => rwa [List.append_nil] at hbegins
      | cons c after' =>
          have hc : c ≠ '{' := fun hc => hbrace (congrArg some hc)
          exact begins_of_begins_append hright hc hbegins

/-! ### Splits with values put in -/

/-- A value that takes no part in placeholders: it has a character, and neither of those that
open one. -/
structure IsPlainValue (value : List Char) : Prop where
  ne_nil : value ≠ []
  not_dollar : '$' ∉ value
  not_brace : '{' ∉ value

theorem IsPlainValue.head?_ne {value : List Char} (h : IsPlainValue value) (after : List Char) :
    (value ++ after).head? ≠ some '{' := by
  obtain ⟨c, value, rfl⟩ := List.exists_cons_of_ne_nil h.ne_nil
  intro hhead
  have hc : c = '{' := Option.some.inj hhead
  exact h.not_brace (hc ▸ List.mem_cons_self)

namespace Split

/-- A split with more characters in front. -/
def prepend (s : List Char) : Split → Split
  | last segment => last (s ++ segment)
  | cut segment name rest => cut (s ++ segment) name rest

theorem text_prepend (s : List Char) (x : Split) : (x.prepend s).text = s ++ x.text := by
  cases x with
  | last segment => rfl
  | cut segment name rest => simp only [prepend, text, List.append_assoc]

theorem names_prepend (s : List Char) (x : Split) : (x.prepend s).names = x.names := by
  cases x <;> rfl

theorem proper_prepend {s : List Char} {x : Split} (hx : x.Proper) (hs : IsLiteral s x.text) :
    (x.prepend s).Proper := by
  cases x with
  | last segment =>
      show IsLiteral (s ++ segment) []
      rw [isLiteral_append, List.append_nil]
      exact ⟨hs, hx⟩
  | cut segment name rest =>
      refine ⟨isLiteral_append.mpr ⟨?_, hx.1⟩, hx.2⟩
      rw [← List.append_assoc]
      exact hs

/-- What is left of a split when values are put in: a value and the segments around it become
one segment, and a placeholder without a value stays. -/
def settle (env : Environment) : Split → Split
  | last segment => last segment
  | cut segment name rest =>
    match env name.text with
    | some value => (rest.settle env).prepend (segment ++ value.toList)
    | none => cut segment name (rest.settle env)

theorem text_settle (env : Environment) (x : Split) : (x.settle env).text = x.fill env := by
  induction x with
  | last segment => rfl
  | cut segment name rest ih =>
      unfold settle
      rw [fill, Name.fill]
      cases henv : env name.text with
      | none =>
          show segment ++ name.written ++ (rest.settle env).text = _
          rw [ih]
      | some value =>
          show ((rest.settle env).prepend (segment ++ value.toList)).text = _
          rw [text_prepend, ih]

theorem names_settle (env : Environment) (x : Split) :
    (x.settle env).names = x.names.filter fun n => (env n.text).isNone := by
  induction x with
  | last segment => rfl
  | cut segment name rest ih =>
      unfold settle
      rw [names, List.filter_cons]
      cases henv : env name.text with
      | none =>
          show name :: (rest.settle env).names = _
          rw [ih]
          rfl
      | some value =>
          show ((rest.settle env).prepend (segment ++ value.toList)).names = _
          rw [names_prepend, ih]
          rfl

/-- With plain values put in, no placeholder begins inside a segment. -/
theorem proper_settle {env : Environment}
    (henv : ∀ name value, env name = some value → IsPlainValue value.toList) {x : Split}
    (h : x.Proper) : (x.settle env).Proper := by
  induction x with
  | last segment => exact h
  | cut segment name rest ih =>
      obtain ⟨hliteral, hrest⟩ := h
      have hclosed : Closed segment := closed_of_isLiteral hliteral
      unfold settle
      cases hvalue : env name.text with
      | none =>
          refine ⟨hclosed.isLiteral hliteral ?_, ih hrest⟩
          intro hhead
          exact absurd (Option.some.inj hhead) (by decide)
      | some value =>
          have hplain := henv _ value hvalue
          refine proper_prepend (ih hrest) (isLiteral_append.mpr ⟨?_, ?_⟩)
          · exact hclosed.isLiteral hliteral (hplain.head?_ne _)
          · exact isLiteral_of_not_mem hplain.not_dollar _

/-- A split none of whose variables is set stands for its own text. -/
theorem fill_of_unset {env : Environment} {x : Split} (h : ∀ n ∈ x.names, env n.text = none) :
    x.fill env = x.text := by
  induction x with
  | last segment => rfl
  | cut segment name rest ih =>
      obtain ⟨hname, hrest⟩ := List.forall_mem_cons.mp h
      have hfill : name.fill env = name.written := by
        unfold Name.fill
        rw [hname]
      rw [fill, text, hfill, ih hrest]

end Split

/-! ### The placeholders of a text -/

theorem filterMap_name?_parts (x : Split) :
    x.parts.filterMap Part.name? = x.names.map Name.text := by
  have hliteral : ∀ s : List Char, (s.map Part.literal).filterMap Part.name? = [] := by
    intro s
    rw [List.filterMap_map]
    exact List.filterMap_eq_nil_iff.mpr fun _ _ => rfl
  induction x with
  | last segment => exact hliteral segment
  | cut segment name rest ih =>
      rw [Split.parts, List.filterMap_append, hliteral, List.nil_append, Split.names, List.map_cons,
        ← ih]
      rfl

theorem names_of_proper {text : String} {x : Split} (htext : x.text = text.toList)
    (h : x.Proper) : names text = x.names.map Name.text := by
  rw [names, ← htext, Split.parts_text h, filterMap_name?_parts]

end Substitution

/-! ### Environments of plain values -/

/-- Every variable that is set has a value that is not empty, and in which there is no dollar
sign and no brace. -/
def Environment.IsPlain (env : Environment) : Prop :=
  ∀ name value, env name = some value →
    value ≠ "" ∧ ∀ c ∈ value.toList, c ≠ '$' ∧ c ≠ '{' ∧ c ≠ '}'

theorem Environment.IsPlain.isPlainValue {env : Environment} (h : env.IsPlain)
    (name value : String) (hvalue : env name = some value) :
    Substitution.IsPlainValue value.toList := by
  obtain ⟨hne, hchars⟩ := h name value hvalue
  refine ⟨?_, fun hmem => (hchars _ hmem).1 rfl, fun hmem => (hchars _ hmem).2.1 rfl⟩
  intro hnil
  exact hne (String.toList_inj.mp hnil)

/-- A text that is filled under an environment in which none of its variables is set stays as it
is. -/
theorem substitute_of_unset {env : Environment} {text : String}
    (h : ∀ name ∈ Substitution.names text, env name = none) : substitute env text = text := by
  obtain ⟨x, htext, hproper⟩ := Substitution.Split.exists_proper text.toList
  have hunset : ∀ n ∈ x.names, env n.text = none := by
    intro n hn
    apply h
    rw [Substitution.names_of_proper htext hproper]
    exact List.mem_map_of_mem hn
  rw [Substitution.substitute_of_proper env htext hproper, Substitution.Split.fill_of_unset hunset,
    htext, String.ofList_toList]

/-- The placeholders of a text that plain values were put into are those it had whose variable
is not set. -/
theorem names_substitute {env : Environment} (h : env.IsPlain) (text : String) :
    Substitution.names (substitute env text) =
      (Substitution.names text).filter fun name => (env name).isNone := by
  obtain ⟨x, htext, hproper⟩ := Substitution.Split.exists_proper text.toList
  have hsettled : (x.settle env).text = (substitute env text).toList := by
    rw [Substitution.Split.text_settle, Substitution.substitute_of_proper env htext hproper,
      String.toList_ofList]
  have hplain := Substitution.Split.proper_settle h.isPlainValue hproper
  rw [Substitution.names_of_proper hsettled hplain, Substitution.names_of_proper htext hproper,
    Substitution.Split.names_settle, List.filter_map]
  rfl

/-- **Plain values are put into a text once and for all.**  Filling the text again changes
nothing, because the placeholders that it still has are those without a value; and an
environment without variables changes no text. -/
theorem substitute_substitute {env : Environment} (h : env.IsPlain) (text : String) :
    substitute env (substitute env text) = substitute env text ∧
      Substitution.names (substitute env text) =
        ((Substitution.names text).filter fun name => (env name).isNone) ∧
      ∀ unset : Environment, (∀ name, unset name = none) → substitute unset text = text := by
  refine ⟨substitute_of_unset ?_, names_substitute h text, ?_⟩
  · intro name hname
    rw [names_substitute h, List.mem_filter] at hname
    exact Option.isNone_iff_eq_none.mp hname.2
  · intro unset hunset
    exact substitute_of_unset fun name _ => hunset name

/-- Dollar signs and braces right before and after a value, a name with an opening brace in it,
a placeholder without a name and one that is not closed. -/
theorem substitute_substitute_crooked :
    Environment.IsPlain (fun name => if name = "A" then some "v w" else none) ∧
      substitute (fun name => if name = "A" then some "v w" else none)
          "$$\x7bA\x7d\x7bB\x7d $\x7b\x7d$\x7bA$\x7bB\x7d\x7d$\x7bA\x7d$\x7bA" =
        "$v w\x7bB\x7d $\x7b\x7d$\x7bA$\x7bB\x7d\x7dv w$\x7bA" ∧
      substitute (fun name => if name = "A" then some "v w" else none)
          "$v w\x7bB\x7d $\x7b\x7d$\x7bA$\x7bB\x7d\x7dv w$\x7bA" =
        "$v w\x7bB\x7d $\x7b\x7d$\x7bA$\x7bB\x7d\x7dv w$\x7bA" := by
  have hplain : Environment.IsPlain fun name => if name = "A" then some "v w" else none := by
    intro name value hvalue
    rw [Option.ite_none_right_eq_some, Option.some.injEq] at hvalue
    obtain ⟨-, rfl⟩ := hvalue
    exact ⟨by decide, by simp⟩
  have hfilled : substitute (fun name => if name = "A" then some "v w" else none)
      "$$\x7bA\x7d\x7bB\x7d $\x7b\x7d$\x7bA$\x7bB\x7d\x7d$\x7bA\x7d$\x7bA" =
        "$v w\x7bB\x7d $\x7b\x7d$\x7bA$\x7bB\x7d\x7dv w$\x7bA" := by decide +kernel
  have hagain := (substitute_substitute hplain
    "$$\x7bA\x7d\x7bB\x7d $\x7b\x7d$\x7bA$\x7bB\x7d\x7d$\x7bA\x7d$\x7bA").1
  rw [hfilled] at hagain
  exact ⟨hplain, hfilled, hagain⟩

end HttpGet
