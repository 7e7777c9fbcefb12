/-
Layout of a written value.

`tighten` deletes the spaces and the line breaks of a text that stand outside of string literals,
and nothing else.  It has to know where it stands: a quote after a backslash does not end a
string, and a blank in a string is no layout.  Every part of a pretty text begins and ends
outside of strings, so the text is tightened part by part (`Tightens`), and each part becomes the
same part of the compact text.
-/
import HttpGet.Proofs.Json.Characters

namespace HttpGet.Json

/-- Where a text stands: outside of string literals, inside one, or inside one after a
backslash. -/
inductive Region where
  | outside
  | inside
  | escaped
deriving DecidableEq, Repr

namespace Region

/-- Where a text stands after a character. -/
def after : Region → Char → Region
  | outside, c => if c = '"' then inside else outside
  | inside, c => if c = '"' then outside else if c = '\\' then escaped else inside
  | escaped, _ => inside

/-- Whether a character is layout: a space or a line break outside of string literals. -/
def isLayout : Region → Char → Bool
  | outside, c => c = ' ' || c = '\n'
  | _, _ => false

end Region

/-- A text without its layout. -/
def tighten : Region → List Char → List Char
  | _, [] => []
  | r, c :: rest =>
    if r.isLayout c then tighten (r.after c) rest else c :: tighten (r.after c) rest

example : tighten .outside "[ \"a \\\" b\",\n  1 ]".toList = "[\"a \\\" b\",1]".toList := by decide

/-! ### Parts of a text -/

/-- A part of a text that begins and ends outside of strings, and what it is without layout. -/
def Tightens (part tight : List Char) : Prop :=
  ∀ rest, tighten .outside (part ++ rest) = tight ++ tighten .outside rest

namespace Tightens

variable {part part' tight tight' : List Char}

theorem nil : Tightens [] [] := fun _ => rfl

theorem append (h : Tightens part tight) (h' : Tightens part' tight') :
    Tightens (part ++ part') (tight ++ tight') := by
  intro rest
  rw [List.append_assoc, h, h', List.append_assoc]

/-- What neither begins a string nor is layout stays. -/
theorem cons {c : Char} (hquote : c ≠ '"') (hlayout : Region.outside.isLayout c = false)
    (h : Tightens part tight) : Tightens (c :: part) (c :: tight) := by
  intro rest
  rw [List.cons_append, tighten, hlayout, Region.after, if_neg hquote, h]
  rfl

/-- Layout is deleted. -/
theorem layout_cons {c : Char} (hlayout : Region.outside.isLayout c = true)
    (h : Tightens part tight) : Tightens (c :: part) tight := by
  have hquote : c ≠ '"' := by
    rintro rfl
    exact absurd hlayout (by decide)
  intro rest
  rw [List.cons_append, tighten, if_pos hlayout, Region.after, if_neg hquote, h]

theorem self (hquote : ∀ c ∈ part, c ≠ '"')
    (hlayout : ∀ c ∈ part, Region.outside.isLayout c = false) : Tightens part part := by
  induction part with
  | nil => exact .nil
  | cons c part ih =>
      obtain ⟨hc, hpart⟩ := List.forall_mem_cons.mp hquote
      obtain ⟨hc', hpart'⟩ := List.forall_mem_cons.mp hlayout
      exact .cons hc hc' (ih hpart hpart')

/-- A word without quotes and layout stays. -/
theorem word (h : part.all (fun c => c ≠ '"' ∧ Region.outside.isLayout c = false) = true) :
    Tightens part part :=
  .self (fun c hc => (forall_mem_of_all h c hc).1) fun c hc => (forall_mem_of_all h c hc).2

theorem layout (h : ∀ c ∈ part, Region.outside.isLayout c = true) : Tightens part [] := by
  induction part with
  | nil => exact .nil
  | cons c part ih =>
      obtain ⟨hc, hpart⟩ := List.forall_mem_cons.mp h
      exact .layout_cons hc (ih hpart)

theorem newLine (level : Nat) : Tightens (newLine level) [] := by
  refine layout (List.forall_mem_cons.mpr ⟨by decide, ?_⟩)
  intro c hc
  rw [List.eq_of_mem_replicate hc]
  decide

end Tightens

/-! ### Strings -/

/-- A character of a string is written without a quote of its own, so the string goes on after
it. -/
theorem tighten_escapeChar (c : Char) (rest : List Char) :
    tighten .inside (escapeChar c ++ rest) = escapeChar c ++ tighten .inside rest := by
  -- A backslash and the character after it: a quote there does not end the string.
  have hpair : ∀ e rest', tighten .inside ('\\' :: e :: rest') = '\\' :: e :: tighten .inside rest' :=
    fun _ _ => rfl
  have hplain : ∀ {e : Char}, e ≠ '"' → e ≠ '\\' → ∀ rest',
      tighten .inside (e :: rest') = e :: tighten .inside rest' := by
    intro e hquote hbackslash rest'
    rw [tighten, Region.after, if_neg hquote, if_neg hbackslash]
    rfl
  have hhex : ∀ n : Fin 16, hexDigit n.val ≠ '"' ∧ hexDigit n.val ≠ '\\' := by decide
  unfold escapeChar
  repeat
    split
    · exact hpair _ rest
  rename_i hquote hbackslash _ _ _ _ _
  split
  · rename_i hc
    have hhigh := hhex ⟨c.toNat / 16, by omega⟩
    have hlow := hhex ⟨c.toNat % 16, by omega⟩
    simp only [List.cons_append, List.nil_append]
    rw [hpair, hplain (by decide) (by decide), hplain (by decide) (by decide),
      hplain hhigh.1 hhigh.2, hplain hlow.1 hlow.2]
  · exact hplain hquote hbackslash rest

/-- A string literal stays as it is. -/
theorem Tightens.quote (s : String) : Tightens (quote s) (quote s) := by
  have hbody : ∀ (cs rest : List Char), tighten .inside (cs.flatMap escapeChar ++ rest) =
      cs.flatMap escapeChar ++ tighten .inside rest := by
    intro cs rest
    induction cs with
    | nil => rfl
    | cons c cs ih =>
        rw [List.flatMap_cons, List.append_assoc, tighten_escapeChar, ih, List.append_assoc]
  intro rest
  have hopen : ∀ rest', tighten .outside ('"' :: rest') = '"' :: tighten .inside rest' :=
    fun _ => rfl
  have hclose : tighten .inside ('"' :: rest) = '"' :: tighten .outside rest := rfl
  simp only [Json.quote, List.cons_append, List.append_assoc, List.nil_append]
  rw [hopen, hbody, hclose]

/-! ### Values -/

/-- A number has neither quotes nor layout. -/
theorem Tightens.number (x : Number) : Tightens x.write x.write := by
  refine .self (fun c hc => (graphic_of_isNumeric (isNumeric_of_mem_write x c hc)).2) ?_
  intro c hc
  have hgraphic := (graphic_of_isNumeric (isNumeric_of_mem_write x c hc)).1
  rw [Region.isLayout, Bool.or_eq_false_iff, decide_eq_false_iff_not, decide_eq_false_iff_not]
  constructor
  · rintro rfl
    exact absurd hgraphic (by decide)
  · rintro rfl
    exact absurd hgraphic (by decide)

/-- Lists of parts are tightened part by part. -/
theorem Tightens.laterParts {α : Type} {write write' : α → List Char} {before after : List Char}
    {close : Char} (hquote : close ≠ '"') (hlayout : Region.outside.isLayout close = false)
    (hbefore : Tightens before []) (hafter : Tightens after []) {as : List α}
    (h : ∀ a ∈ as, Tightens (write a) (write' a)) :
    Tightens (laterParts before after close (as.map write))
      (laterParts [] [] close (as.map write')) := by
  induction as with
  | nil => exact hafter.append (.cons hquote hlayout .nil)
  | cons a as ih =>
      obtain ⟨ha, has⟩ := List.forall_mem_cons.mp h
      exact ((Tightens.cons (by decide) (by decide) hbefore).append ha).append (ih has)

/-- **The pretty text of a value at any level is its compact text with layout.** -/
theorem tightens_pretty (v : Json) (level : Nat) : Tightens (pretty level v) (compact v) := by
  induction v using Json.induction generalizing level with
  | null =>
      rw [pretty, compact]
      exact .word (by decide)
  | flag b =>
      rw [pretty, compact]
      cases b with
      | true => exact .word (by decide)
      | false => exact .word (by decide)
  | number n =>
      rw [pretty, compact]
      exact .number n
  | text s =>
      rw [pretty, compact]
      exact .quote s
  | array items ih =>
      cases items with
      | nil =>
          rw [pretty, compact]
          exact .word (by decide)
      | cons v vs =>
          obtain ⟨hv, hvs⟩ := List.forall_mem_cons.mp ih
          rw [pretty, compact, prettyItems_eq, compactItems_eq]
          exact ((Tightens.cons (by decide) (by decide) (.newLine _)).append (hv _)).append
            (.laterParts (by decide) (by decide) (.newLine _) (.newLine _) fun u hu => hvs u hu _)
  | object members ih =>
      have hmember : ∀ m ∈ members, Tightens (prettyMember (level + 1) m) (compactMember m) := by
        intro m hm
        rw [prettyMember, compactMember]
        exact (Tightens.quote m.1).append
          (.cons (by decide) (by decide) (.layout_cons (by decide) (ih m hm _)))
      cases members with
      | nil =>
          rw [pretty, compact]
          exact .word (by decide)
      | cons m ms =>
          obtain ⟨hm, hms⟩ := List.forall_mem_cons.mp hmember
          rw [pretty, compact, prettyMembers_eq, compactMembers_eq]
          exact ((Tightens.cons (by decide) (by decide) (.newLine _)).append hm).append
            (.laterParts (by decide) (by decide) (.newLine _) (.newLine _) hms)

theorem tighten_pretty (v : Json) (level : Nat) : tighten .outside (pretty level v) = compact v := by
  have h := tightens_pretty v level []
  rwa [List.append_nil, tighten, List.append_nil] at h

end HttpGet.Json
