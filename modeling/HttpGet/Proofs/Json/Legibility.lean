/-
Every decoded value is written legibly.

The text of a value without floating point numbers spells that value.  The text of any other
decoded value is read again too, but where a floating point number stands it may be read as
another one, so nothing is said here about which value the text spells.  What is said is that it
spells one, and that the keys of its objects stand in the order in which the value lists them, by
code point.
-/
import HttpGet.Proofs.Rereading

namespace HttpGet.Json

/-! ### Decoded values -/

/-- A value as a reader that may go `n` levels down gives it: it nests at most `n` deep, and its
members are in order. -/
inductive Given : Nat → Json → Prop
  | null {n : Nat} : Given n .null
  | flag {n : Nat} (b : Bool) : Given n (.flag b)
  | number {n : Nat} (x : Number) : Given n (.number x)
  | text {n : Nat} (s : String) : Given n (.text s)
  | array {n : Nat} {items : List Json} (h : ∀ v ∈ items, Given n v) : Given (n + 1) (.array items)
  | object {n : Nat} {members : List (String × Json)} (hk : keysIncrease members)
      (h : ∀ m ∈ members, Given n m.2) : Given (n + 1) (.object members)

theorem Within.given {n : Nat} {d : Derivation} {v : Json} (h : Within n d v) : Given n v := by
  induction n using Nat.strongRecOn generalizing d v with
  | _ n ih =>
      cases d with
      | null =>
          cases h.denotes
          exact .null
      | flag b =>
          cases h.denotes
          exact .flag b
      | number l =>
          cases h.denotes
          exact .number _
      | text ps =>
          cases h.denotes
          exact .text _
      | array gap items =>
          obtain ⟨m, vs, rfl, rfl, hvs⟩ := h.of_array
          refine .array fun v hv => ?_
          obtain ⟨d, -, hd⟩ := exists_left_of_forall₂ hvs hv
          exact ih m (Nat.lt_succ_self m) hd
      | object gap members =>
          obtain ⟨m, kvs, ms, rfl, rfl, last, hkvs⟩ := h.of_object
          refine .object last.increasing fun kv hkv => ?_
          obtain ⟨before, after, rfl, -⟩ := (last.mem_iff kv).mp hkv
          obtain ⟨member, -, hmember⟩ := exists_left_of_forall₂ hkvs (b := kv) (by simp)
          exact ih m (Nat.lt_succ_self m) hmember.value

theorem Spells.given {text : String} {v : Json} (h : Spells text v) : Given 127 v := by
  obtain ⟨d, -, hdepth, hdenotes⟩ := h
  exact Within.given ⟨hdepth, hdenotes⟩

/-! ### The order of keys -/

/-- The code points of a text. -/
def codePoints (s : String) : List Nat := s.toList.map Char.toNat

/-- Texts are ordered as their code points are. -/
theorem codePoints_lt {a b : String} (h : a < b) : codePoints a < codePoints b := by
  have hlist : ∀ {xs ys : List Char}, xs < ys → xs.map Char.toNat < ys.map Char.toNat := by
    intro xs ys h
    induction h with
    | nil => exact .nil
    | rel hlt => exact .rel hlt
    | cons _ ih => exact .cons ih
  exact hlist (String.lt_iff_toList_lt.mp h)

/-- In every object of a derivation the keys increase strictly by code point. -/
inductive Derivation.KeysIncrease : Derivation → Prop
  | null : KeysIncrease .null
  | flag (b : Bool) : KeysIncrease (.flag b)
  | number (l : NumberLiteral) : KeysIncrease (.number l)
  | text (ps : List Piece) : KeysIncrease (.text ps)
  | array {gap : Gap} {items : List (Padded Derivation)}
      (h : ∀ d ∈ items.map Padded.core, KeysIncrease d) : KeysIncrease (.array gap items)
  | object {gap : Gap} {members : List (Padded (List Piece) × Padded Derivation)}
      (keys : (members.map fun m => codePoints (unescaped m.1.core)).Pairwise (· < ·))
      (h : ∀ d ∈ members.map (fun m => m.2.core), KeysIncrease d) :
      KeysIncrease (.object gap members)

/-! ### Legible texts -/

/-- A text that is derived for some value, within some depth and with the keys in order. -/
def Legible (n : Nat) (s : List Char) : Prop :=
  ∃ d : Derivation, d.chars = s ∧ (∃ v, Within n d v) ∧ d.KeysIncrease

/-- What is written for a number denotes one, even if not always the same. -/
theorem exists_denoted (x : Number) :
    ∃ (l : NumberLiteral) (y : Number), x.write = l.chars ∧ l.numeral.Denotes y := by
  cases x with
  | integer i => exact ⟨integerLiteral i.val, .integer i, write_integer i, denotes_integerLiteral i⟩
  | real x =>
      obtain ⟨l, y, hwrite, hdenotes, -⟩ := exists_reread x
      exact ⟨l, .real y, hwrite, hdenotes⟩

namespace Legible

variable {n : Nat}

theorem null : Legible n "null".toList :=
  ⟨.null, by rw [Derivation.chars], ⟨.null, by rw [Derivation.depth]; omega, .null⟩, .null⟩

theorem flag (b : Bool) : Legible n (flagWord b) :=
  ⟨.flag b, by rw [Derivation.chars, flagWord],
    ⟨.flag b, by rw [Derivation.depth]; omega, .flag b⟩, .flag b⟩

theorem number (x : Number) : Legible n x.write := by
  obtain ⟨l, y, hwrite, hdenotes⟩ := exists_denoted x
  exact ⟨.number l, by rw [Derivation.chars, hwrite],
    ⟨.number y, by rw [Derivation.depth]; omega, .number hdenotes⟩, .number l⟩

theorem text (s : String) : Legible n (quote s) := by
  obtain ⟨ps, hps, rfl⟩ := exists_pieces s
  exact ⟨.text ps, by rw [Derivation.chars, hps],
    ⟨.text (unescaped ps), by rw [Derivation.depth]; omega, .text ps⟩, .text ps⟩

theorem array_nil : Legible (n + 1) ['[', ']'] := by
  refine ⟨.array .none [], ?_, ⟨.array [], Within.array .nil⟩, .array (by simp)⟩
  rw [Derivation.chars_array]
  rfl

theorem array_cons (before after : Gap) {write : Json → List Char} {v : Json} {vs : List Json}
    (h : ∀ u ∈ v :: vs, Legible n (write u)) :
    Legible (n + 1) ('[' :: before.chars ++ write v ++
      laterParts before.chars after.chars ']' (vs.map write)) := by
  obtain ⟨items, hitems, hchars⟩ := Derivation.exists_array before after h
  have hall := forall_left_of_forall₂ hitems
  obtain ⟨us, hus⟩ := exists_right_of_forall_mem fun d hd => (hall d hd).1
  exact ⟨.array .none items, hchars, ⟨.array us, Within.array hus⟩,
    .array fun d hd => (hall d hd).2⟩

theorem object_nil : Legible (n + 1) ['{', '}'] := by
  refine ⟨.object .none [], ?_, ⟨.object [], Within.object .nil .nil⟩, .object (by simp) (by simp)⟩
  rw [Derivation.chars_object]
  rfl

theorem object_cons (before colon after : Gap) {write : Json → List Char} {m : String × Json}
    {ms : List (String × Json)} (hk : keysIncrease (m :: ms))
    (h : ∀ m' ∈ m :: ms, Legible n (write m'.2)) :
    Legible (n + 1) ('{' :: before.chars ++ memberText colon write m ++
      laterParts before.chars after.chars '}' (ms.map (memberText colon write))) := by
  obtain ⟨members, hmembers, hchars⟩ := Derivation.exists_object
    (P := fun d _ => (∃ v, Within n d v) ∧ d.KeysIncrease) before colon after h
  obtain ⟨hkeys, hvalues⟩ := forall₂_memberOf_iff.mp hmembers
  have hall := forall_left_of_forall₂ hvalues
  obtain ⟨kvs, hkvs⟩ : ∃ kvs, List.Forall₂ (MemberOf (Within n)) members kvs := by
    refine exists_right_of_forall_mem fun member hmember => ?_
    obtain ⟨u, hu⟩ := (hall _ (List.mem_map_of_mem hmember)).1
    exact ⟨(unescaped member.1.core, u), rfl, hu⟩
  refine ⟨.object .none members, hchars, ⟨_, Within.object hkvs (ofMembers_eq_iff.mp rfl)⟩,
    .object ?_ fun d hd => (hall d hd).2⟩
  rw [← Function.comp_def codePoints, ← List.map_map, ← hkeys, List.map_map]
  exact (List.pairwise_map.mp hk).map _ fun a b hab => codePoints_lt hab

/-- A legible text can be read. -/
theorem exists_parse {s : List Char} (h : Legible 127 s) :
    ∃ v, parse (String.ofList s) = .ok v := by
  obtain ⟨d, hd, ⟨v, hv⟩, -⟩ := h
  exact ⟨v, parse_eq_ok_iff.mpr (Written.spells ⟨d, hd, hv⟩)⟩

end Legible

/-! ### The two forms -/

/-- The compact form of a decoded value is legible. -/
theorem legible_compact {n : Nat} {v : Json} (h : Given n v) : Legible n (compact v) := by
  induction h with
  | null => exact .null
  | flag b => exact .flag b
  | number x => exact .number x
  | text s => exact .text s
  | @array n items _ ih =>
      cases items with
      | nil => exact .array_nil
      | cons v vs =>
          rw [compact, compactItems_eq]
          exact .array_cons .none .none ih
  | @object n members hk _ ih =>
      cases members with
      | nil => exact .object_nil
      | cons m ms =>
          rw [compact, compactMembers_eq, funext compactMember_eq]
          exact .object_cons .none .none .none hk ih

/-- The pretty form of a decoded value is legible, at every level. -/
theorem legible_pretty {n : Nat} {v : Json} (h : Given n v) (level : Nat) :
    Legible n (pretty level v) := by
  induction h generalizing level with
  | null => exact .null
  | flag b => exact .flag b
  | number x => exact .number x
  | text s => exact .text s
  | @array n items _ ih =>
      cases items with
      | nil => exact .array_nil
      | cons v vs =>
          rw [pretty, prettyItems_eq]
          exact .array_cons (lineGap (level + 1)) (lineGap level) fun u hu => ih u hu (level + 1)
  | @object n members hk _ ih =>
      cases members with
      | nil => exact .object_nil
      | cons m ms =>
          rw [pretty, prettyMembers_eq, funext (prettyMember_eq (level + 1))]
          exact .object_cons (lineGap (level + 1)) colonGap (lineGap level) hk
            fun m' hm' => ih m' hm' (level + 1)

end HttpGet.Json
