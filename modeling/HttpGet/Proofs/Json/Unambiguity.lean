/-
The keys that stand in a text.

A text may have several derivations, which give the same blanks to different parts.  They agree in
all else, and here it is shown that they agree in their keys: a reader that keeps the text of an item
instead of its value reads the same texts off every derivation, and so it is for members and their
keys.  So whether the keys of a text increase does not depend on how it is derived.
-/
import HttpGet.Proofs.Json.Inversion
import HttpGet.Proofs.Json.Legibility

namespace HttpGet.Json

/-! ### The texts of values -/

/-- Read a value and keep the text that it stands in. -/
def readSpan (n : Nat) (s : List Char) : Scan (List Char) :=
  (readValue (n + 1) s).map fun p =>
    ((skipSpace s).take ((skipSpace s).length - p.2.length), p.2)

theorem readSpan_derivation {n : Nat} {d : Derivation} {v : Json} {rest : List Char} (gap : Gap)
    (h : readValue (n + 1) (gap.chars ++ (d.chars ++ rest)) = .ok (v, rest)) :
    readSpan n (gap.chars ++ (d.chars ++ rest)) = .ok (d.chars, rest) := by
  obtain ⟨c, cs, hd, hspace, -⟩ := d.chars_eq_cons
  have hskip : skipSpace (gap.chars ++ (d.chars ++ rest)) = d.chars ++ rest := by
    rw [skipSpace_gap, hd, List.cons_append, skipSpace_cons hspace]
  rw [readSpan, h, Except.map, hskip, List.length_append, Nat.add_sub_cancel, List.take_left]

theorem readSpan_accords (n : Nat) :
    Accords (readSpan n) fun d s => (∃ v, Within n d v) ∧ d.chars = s := by
  constructor
  · intro s rest span h
    cases hv : readValue (n + 1) s with
    | error f => simp [readSpan, hv, Except.map] at h
    | ok p =>
        obtain ⟨v, r⟩ := p
        obtain ⟨gap, d, rfl, hd⟩ := (readValue_accords n).sound hv
        rw [readSpan_derivation gap hv, Except.ok.injEq, Prod.mk.injEq] at h
        obtain ⟨rfl, rfl⟩ := h
        exact ⟨gap, d, rfl, ⟨v, hd⟩, rfl⟩
  · rintro d span ⟨⟨v, hv⟩, rfl⟩ gap rest hrest
    exact readSpan_derivation gap ((readValue_accords n).complete hv gap hrest)

theorem readSpan_inverts (n : Nat) : Inverts (readSpan n) fun d s => d.chars = s := by
  refine ⟨fun {d span rest r} gap hrest h => ?_⟩
  cases hv : readValue (n + 1) (gap.chars ++ (d.chars ++ rest)) with
  | error f => simp [readSpan, hv, Except.map] at h
  | ok p =>
      obtain ⟨v, r'⟩ := p
      obtain ⟨rfl, -⟩ := (readValue_inverts n).read gap hrest hv
      rw [readSpan_derivation gap hv, Except.ok.injEq, Prod.mk.injEq] at h
      exact ⟨h.2.symm, h.1⟩

/-! ### Lists and objects -/

theorem forall₂_spans {n : Nat} {ds : List Derivation} {vs : List Json}
    (h : List.Forall₂ (Within n) ds vs) :
    List.Forall₂ (fun d s => (∃ v, Within n d v) ∧ d.chars = s) ds (ds.map Derivation.chars) := by
  rw [List.forall₂_map_right_iff, List.forall₂_same]
  have hwithin := forall_left_of_forall₂ (h.imp fun d v hd => (⟨v, hd⟩ : ∃ v, Within n d v))
  exact fun d hd => ⟨hwithin d hd, rfl⟩

/-- The items of a list have the same texts in every derivation of it. -/
theorem map_chars_of_array {n : Nat} {gap gap' : Gap} {items items' : List (Padded Derivation)}
    {vs : List Json} (h : List.Forall₂ (Within n) (items.map Padded.core) vs)
    (hchars : (Derivation.array gap' items').chars = (Derivation.array gap items).chars) :
    (items'.map Padded.core).map Derivation.chars =
      (items.map Padded.core).map Derivation.chars := by
  have hread := readItems_complete (readSpan_accords n) (forall₂_spans h)
    (Nat.lt_succ_self items.length) true gap []
  rw [Derivation.chars_array, Derivation.chars_array, joinWith_eq_listed, joinWith_eq_listed] at hchars
  simp only [List.cons_append, List.append_assoc, List.cons.injEq, true_and] at hchars
  rw [← hchars] at hread
  obtain ⟨-, hspans⟩ := (readSpan_inverts n).readItems gap' hread
  rwa [← List.forall₂_map_left_iff, List.forall₂_eq_eq_eq] at hspans

/-- The members of an object have the same keys and texts in every derivation of it. -/
theorem map_chars_of_object {n : Nat} {gap gap' : Gap}
    {members members' : List (Padded (List Piece) × Padded Derivation)} {kvs : List (String × Json)}
    (h : List.Forall₂ (MemberOf (Within n)) members kvs)
    (hchars : (Derivation.object gap' members').chars = (Derivation.object gap members).chars) :
    members'.map (fun m => unescaped m.1.core) = members.map (fun m => unescaped m.1.core) ∧
      (members'.map fun m => m.2.core).map Derivation.chars =
        (members.map fun m => m.2.core).map Derivation.chars := by
  have hwithin := forall_left_of_forall₂
    (h.imp fun m kv hm => (⟨kv.2, hm.value⟩ : ∃ v, Within n m.2.core v))
  have hspans : List.Forall₂ (MemberOf fun d s => (∃ v, Within n d v) ∧ d.chars = s) members
      (members.map fun m => (unescaped m.1.core, m.2.core.chars)) := by
    rw [List.forall₂_map_right_iff, List.forall₂_same]
    exact fun m hm => ⟨rfl, hwithin m hm, rfl⟩
  have hread := readMembers_complete (readSpan_accords n) hspans
    (Nat.lt_succ_self members.length) true gap []
  rw [Derivation.chars_object, Derivation.chars_object, joinWith_eq_listed,
    joinWith_eq_listed] at hchars
  simp only [List.cons_append, List.append_assoc, List.cons.injEq, true_and] at hchars
  rw [← hchars] at hread
  obtain ⟨-, hmembers⟩ := (readSpan_inverts n).readMembers gap' hread
  obtain ⟨hkeys, htexts⟩ := forall₂_memberOf_iff.mp hmembers
  rw [← List.forall₂_map_left_iff, List.forall₂_eq_eq_eq] at htexts
  refine ⟨?_, ?_⟩
  · rw [← hkeys, List.map_map]
    rfl
  · rw [htexts, List.map_map, List.map_map]
    rfl

/-! ### Keys -/

/-- How a text begins tells lists and objects from all else. -/
theorem Derivation.eq_array {d : Derivation} {s : List Char} (h : d.chars = '[' :: s) :
    ∃ gap items, d = .array gap items := by
  cases d with
  | null => simp [chars] at h
  | flag b => cases b <;> simp [chars] at h
  | number l =>
      obtain ⟨c, cs, hl, hc⟩ := l.chars_eq_cons
      rw [chars, hl] at h
      obtain rfl := (List.cons.inj h).1
      exact absurd hc (by decide)
  | text ps => simp [chars, literal] at h
  | array gap items => exact ⟨gap, items, rfl⟩
  | object gap members => simp [chars_object] at h

theorem Derivation.eq_object {d : Derivation} {s : List Char} (h : d.chars = '{' :: s) :
    ∃ gap members, d = .object gap members := by
  cases d with
  | null => simp [chars] at h
  | flag b => cases b <;> simp [chars] at h
  | number l =>
      obtain ⟨c, cs, hl, hc⟩ := l.chars_eq_cons
      rw [chars, hl] at h
      obtain rfl := (List.cons.inj h).1
      exact absurd hc (by decide)
  | text ps => simp [chars, literal] at h
  | array gap items => simp [chars_array] at h
  | object gap members => exact ⟨gap, members, rfl⟩

/-- Whether keys increase does not depend on the derivation. -/
theorem Derivation.KeysIncrease.of_chars_eq {n : Nat} {d d' : Derivation} {v : Json}
    (h : d.KeysIncrease) (hv : Within n d v) (hchars : d'.chars = d.chars) : d'.KeysIncrease := by
  induction n using Nat.strongRecOn generalizing d d' v with
  | _ n ih =>
      -- Parts with the same texts are in order together.
      have hparts : ∀ {m : Nat} {ds ds' : List Derivation}, m < n → (∀ d ∈ ds, ∃ v, Within m d v) →
          (∀ d ∈ ds, d.KeysIncrease) → ds'.map chars = ds.map chars → ∀ d ∈ ds', d.KeysIncrease := by
        intro m ds ds' hm hwithin hkeys htexts d' hd'
        obtain ⟨d, hd, hchars⟩ := List.mem_map.mp (htexts ▸ List.mem_map_of_mem hd')
        obtain ⟨v, hv⟩ := hwithin d hd
        exact ih m hm (hkeys d hd) hv hchars.symm
      cases d' with
      | null => exact .null
      | flag b => exact .flag b
      | number l => exact .number l
      | text ps => exact .text ps
      | array gap' items' =>
          obtain ⟨gap, items, rfl⟩ := eq_array (hchars ▸ chars_array gap' items')
          obtain ⟨m, vs, rfl, -, hvs⟩ := hv.of_array
          cases h with
          | array hkeys =>
              refine .array (hparts (Nat.lt_succ_self m) ?_ hkeys (map_chars_of_array hvs hchars))
              exact forall_left_of_forall₂ (hvs.imp fun d v hd => ⟨v, hd⟩)
      | object gap' members' =>
          obtain ⟨gap, members, rfl⟩ := eq_object (hchars ▸ chars_object gap' members')
          obtain ⟨m, kvs, ms, rfl, -, -, hkvs⟩ := hv.of_object
          obtain ⟨hnames, htexts⟩ := map_chars_of_object hkvs hchars
          cases h with
          | object hincrease hkeys =>
              refine .object ?_ (hparts (Nat.lt_succ_self m) ?_ hkeys htexts)
              · rw [← Function.comp_def codePoints, ← List.map_map] at hincrease ⊢
                rwa [hnames]
              · exact forall_left_of_forall₂
                  ((forall₂_memberOf_iff.mp hkvs).2.imp fun d v hd => ⟨v, hd⟩)

/-- Keys increase in a text: it has a derivation, and in none of them a key is out of order. -/
structure KeysIncreaseIn (text : List Char) : Prop where
  derived : ∃ (d : Derivation) (v : Json), d.chars = text ∧ d.Denotes v
  increase : ∀ d : Derivation, d.chars = text → d.KeysIncrease

theorem Legible.keysIncreaseIn {n : Nat} {text : List Char} (h : Legible n text) :
    KeysIncreaseIn text := by
  obtain ⟨d, rfl, ⟨v, hv⟩, hkeys⟩ := h
  exact ⟨⟨d, v, rfl, hv.denotes⟩, fun d' hd' => hkeys.of_chars_eq hv hd'⟩

end HttpGet.Json
