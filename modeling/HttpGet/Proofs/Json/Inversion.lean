/-
Accepted texts and their derivations.

A text that is accepted has a derivation, and in general more than one: a blank before the first
item of a list may belong to the list or to the item.  Here it is shown that this makes no
difference.  Whichever derivation of a text one has, the text is accepted exactly if that
derivation nests at most 127 deep and denotes a value, and then that is the value.  So what is
known of an accepted text may be read off any derivation of it.
-/
import HttpGet.Proofs.Json.Acceptance

namespace HttpGet.Json

/-- Where a derivation stands, a reader reads up to the end of it, and what it reads is related
to it. -/
structure Inverts {α : Type} (reader : List Char → Scan α) (P : Derivation → α → Prop) : Prop where
  read : ∀ {d : Derivation} {v : α} {rest r : List Char} (gap : Gap), Stops rest →
    reader (gap.chars ++ (d.chars ++ rest)) = .ok (v, r) → r = rest ∧ P d v

/-! ### Items and members -/

/-- Of a list that is read, each item has been. -/
theorem Inverts.readItems {α : Type} {item : List Char → Scan α} {P : Derivation → α → Prop}
    (hitem : Inverts item P) {items : List (Padded Derivation)} {fuel : Nat} {first : Bool}
    (gap : Gap) {after r : List Char} {vs : List α}
    (h : Json.readItems item fuel first
      (gap.chars ++ (listed first (items.map Derivation.itemChars) ++ ']' :: after)) = .ok (vs, r)) :
    r = ']' :: after ∧ List.Forall₂ P (items.map Padded.core) vs := by
  induction items generalizing fuel first gap vs r with
  | nil =>
      cases fuel with
      | zero => simp [Json.readItems] at h
      | succ fuel =>
          rw [List.map_nil, listed, List.nil_append, Json.readItems, nextItem_end, skipSpace_gap,
            skipSpace_cons (by decide), Except.ok.injEq, Prod.mk.injEq] at h
          exact ⟨h.2.symm, h.1 ▸ .nil⟩
  | cons i items ih =>
      cases fuel with
      | zero => simp [Json.readItems] at h
      | succ fuel =>
          have hstops : Stops (i.after.chars ++
              (listed false (items.map Derivation.itemChars) ++ ']' :: after)) :=
            stops_gap i.after (stops_listed _ (Or.inl rfl) after)
          have hnext := nextItem_derivation first gap i.before i.core (i.after.chars ++
            (listed false (items.map Derivation.itemChars) ++ ']' :: after))
          rw [Json.readItems, List.map_cons, listed, Derivation.itemChars, Padded.chars] at h
          simp only [List.append_assoc] at hnext h
          simp only [hnext] at h
          split at h
          · simp at h
          · rename_i v s hv
            obtain ⟨rfl, hiv⟩ := hitem.read .none hstops hv
            split at h
            · simp at h
            · rename_i vs' s' hvs
              obtain ⟨rfl, hrest⟩ := ih i.after hvs
              simp only [Except.ok.injEq, Prod.mk.injEq] at h
              obtain ⟨rfl, rfl⟩ := h
              exact ⟨rfl, .cons hiv hrest⟩

/-- Of an object that is read, each member has been. -/
theorem Inverts.readMembers {α : Type} {value : List Char → Scan α} {P : Derivation → α → Prop}
    (hvalue : Inverts value P) {members : List (Padded (List Piece) × Padded Derivation)}
    {fuel : Nat} {first : Bool} (gap : Gap) {after r : List Char} {kvs : List (String × α)}
    (h : Json.readMembers value fuel first
      (gap.chars ++ (listed first (members.map Derivation.memberChars) ++ '}' :: after)) =
        .ok (kvs, r)) :
    r = '}' :: after ∧ List.Forall₂ (MemberOf P) members kvs := by
  induction members generalizing fuel first gap kvs r with
  | nil =>
      cases fuel with
      | zero => simp [Json.readMembers] at h
      | succ fuel =>
          rw [List.map_nil, listed, List.nil_append, Json.readMembers, nextKey_end, skipSpace_gap,
            skipSpace_cons (by decide), Except.ok.injEq, Prod.mk.injEq] at h
          exact ⟨h.2.symm, h.1 ▸ .nil⟩
  | cons m members ih =>
      cases fuel with
      | zero => simp [Json.readMembers] at h
      | succ fuel =>
          obtain ⟨⟨before, ps, colon⟩, ⟨before', d, behind⟩⟩ := m
          have hstops : Stops (behind.chars ++
              (listed false (members.map Derivation.memberChars) ++ '}' :: after)) :=
            stops_gap behind (stops_listed _ (Or.inr rfl) after)
          have hname := readKey_complete ps colon (before'.chars ++ (d.chars ++ (behind.chars ++
            (listed false (members.map Derivation.memberChars) ++ '}' :: after))))
          have hnext := nextKey_quote first gap before (ps.flatMap Piece.chars ++ '"' ::
            (colon.chars ++ ':' :: (before'.chars ++ (d.chars ++ (behind.chars ++
              (listed false (members.map Derivation.memberChars) ++ '}' :: after))))))
          rw [Json.readMembers, List.map_cons, listed, Derivation.memberChars, Padded.chars,
            Padded.chars, literal] at h
          simp only [List.append_assoc, List.cons_append, List.nil_append] at hnext hname h
          simp only [hnext, hname] at h
          split at h
          · simp at h
          · rename_i v s hv
            obtain ⟨rfl, hdv⟩ := hvalue.read before' hstops hv
            split at h
            · simp at h
            · rename_i kvs' s' hkvs
              obtain ⟨rfl, hrest⟩ := ih behind hkvs
              simp only [Except.ok.injEq, Prod.mk.injEq] at h
              obtain ⟨rfl, rfl⟩ := h
              exact ⟨rfl, .cons ⟨rfl, hdv⟩ hrest⟩

/-! ### Values -/

/-- A reader that may go `n` levels down reads, where a derivation stands, what it denotes, and
that only if it nests at most `n` deep. -/
theorem readValue_inverts (n : Nat) : Inverts (readValue (n + 1)) (Within n) := by
  induction n using Nat.strongRecOn with
  | _ n ih =>
      refine ⟨fun {d v rest r} gap hrest h => ?_⟩
      rw [readValue_gap] at h
      -- Where something is derived within the depth, completeness says what is read.
      have known : ∀ {v' : Json}, Within n d v' → r = rest ∧ Within n d v := by
        intro v' hv'
        have hread := (readValue_accords n).complete hv' .none hrest
        rw [Gap.chars_none, List.nil_append, h, Except.ok.injEq, Prod.mk.injEq] at hread
        obtain ⟨rfl, rfl⟩ := hread
        exact ⟨rfl, hv'⟩
      cases d with
      | null => exact known ⟨by rw [Derivation.depth]; omega, .null⟩
      | flag b => exact known ⟨by rw [Derivation.depth]; omega, .flag b⟩
      | text ps => exact known ⟨by rw [Derivation.depth]; omega, .text ps⟩
      | number l =>
          rw [Derivation.chars, readValue_literal, readNumber, numeral_complete hrest] at h
          cases hvalue : l.numeral.value with
          | error unread => simp [hvalue, Except.map] at h
          | ok x =>
              have hx := (Numeral.value_eq_ok_iff _ _).mp hvalue
              exact known ⟨by rw [Derivation.depth]; omega, .number hx⟩
      | array blanks items =>
          rw [Derivation.chars_array, joinWith_eq_listed] at h
          simp only [List.cons_append, List.append_assoc, List.nil_append] at h
          rw [readValue, skipSpace_cons (by decide)] at h
          cases n with
          | zero => simp at h
          | succ m =>
              simp only [Nat.succ_ne_zero, if_false] at h
              unfold closing at h
              split at h
              · simp at h
              · rename_i vs s hitems
                obtain ⟨rfl, hvs⟩ := (ih m (Nat.lt_succ_self m)).readItems blanks hitems
                simp only [List.tail_cons, Except.ok.injEq, Prod.mk.injEq] at h
                obtain ⟨rfl, rfl⟩ := h
                exact ⟨rfl, Within.array hvs⟩
      | object blanks members =>
          rw [Derivation.chars_object, joinWith_eq_listed] at h
          simp only [List.cons_append, List.append_assoc, List.nil_append] at h
          rw [readValue, skipSpace_cons (by decide)] at h
          cases n with
          | zero => simp at h
          | succ m =>
              simp only [Nat.succ_ne_zero, if_false] at h
              unfold closing at h
              split at h
              · simp at h
              · rename_i kvs s hmembers
                obtain ⟨rfl, hkvs⟩ := (ih m (Nat.lt_succ_self m)).readMembers blanks hmembers
                simp only [List.tail_cons, Except.ok.injEq, Prod.mk.injEq] at h
                obtain ⟨rfl, rfl⟩ := h
                exact ⟨rfl, Within.object hkvs (ofMembers_eq_iff.mp rfl)⟩

/-- **A text is accepted for a value exactly if any derivation of it denotes that value and does
not nest too deep.** -/
theorem parse_chars_eq_ok_iff {d : Padded Derivation} {v : Json} :
    parse (String.ofList (d.chars Derivation.chars)) = .ok v ↔ Within 127 d.core v := by
  constructor
  · intro h
    have hstops : Stops d.after.chars := by
      have hnil := stops_gap d.after (s := []) (fun c rest hs => absurd hs (by simp))
      rwa [List.append_nil] at hnil
    rw [parse, readText, String.toList_ofList, Padded.chars, List.append_assoc] at h
    split at h
    · simp at h
    · rename_i v' rest hread
      obtain ⟨-, hv'⟩ := (readValue_inverts 127).read d.before hstops hread
      split at h
      · simp at h
      · rwa [← Except.ok.inj h]
  · intro h
    exact parse_eq_ok_iff.mpr ⟨d, String.toList_ofList, h.depth, h.denotes⟩

end HttpGet.Json
