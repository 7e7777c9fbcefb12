/-
The members of an object.

`ofMembers` enters members one by one into an ordered list, and a member that comes later
takes the place of one with the same key.  What comes of it is what `ObjectOf` says without
any order of entering: by increasing key, the members that are the last of their key.  As
such a list is determined by its elements, there is only one.
-/
import Mathlib.Data.List.Induction
import Mathlib.Data.String.Basic
import HttpGet.Proofs.Json.Grammar
import HttpGet.Proofs.Lookup

namespace HttpGet.Json

/-! ### Ordered member lists -/

theorem keysIncrease_nil : keysIncrease [] := List.Pairwise.nil

theorem keysIncrease_cons {m : String × Json} {ms : List (String × Json)} :
    keysIncrease (m :: ms) ↔ (∀ m' ∈ ms, m.1 < m'.1) ∧ keysIncrease ms := by
  simp only [keysIncrease, List.map_cons, List.pairwise_cons, List.mem_map, forall_exists_index,
    and_imp, forall_apply_eq_imp_iff₂]

/-- Keys that increase do not repeat. -/
theorem nodup_keys {ms : List (String × Json)} (h : keysIncrease ms) : (ms.map Prod.fst).Nodup :=
  nodup_of_increasing h

/-- Ordered lists of the same members are equal. -/
theorem eq_of_mem_iff {ms ms' : List (String × Json)} (h : keysIncrease ms) (h' : keysIncrease ms')
    (hmem : ∀ m, m ∈ ms ↔ m ∈ ms') : ms = ms' := by
  have hnodup : ∀ l : List (String × Json), keysIncrease l → l.Nodup := by
    intro l hl
    refine (List.pairwise_map.mp hl).imp ?_
    intro a b hab heq
    exact String.lt_irrefl _ (heq ▸ hab)
  refine List.Perm.eq_of_pairwise ?_ (List.pairwise_map.mp h) (List.pairwise_map.mp h')
    ((List.perm_ext_iff_of_nodup (hnodup ms h) (hnodup ms' h')).mpr hmem)
  intro a b _ _ hab hba
  exact absurd hba (String.lt_asymm hab)

/-- Setting a member leaves the others, except the one of its key. -/
theorem mem_setMember {key : String} {value : Json} {ms : List (String × Json)}
    (h : keysIncrease ms) (m : String × Json) :
    m ∈ setMember key value ms ↔ m = (key, value) ∨ (m ∈ ms ∧ m.1 ≠ key) := by
  induction ms with
  | nil => simp [setMember]
  | cons m₀ ms ih =>
      obtain ⟨k, v⟩ := m₀
      obtain ⟨hlt, hms⟩ := keysIncrease_cons.mp h
      rw [setMember]
      by_cases hk : key < k
      · -- Every key of the list is greater, so none of them is the key that is set.
        have hne : ∀ m' ∈ (k, v) :: ms, m'.1 ≠ key := by
          intro m' hm' heq
          rcases List.mem_cons.mp hm' with rfl | hm'
          · exact String.lt_irrefl _ (heq ▸ hk)
          · exact String.lt_irrefl _ (heq ▸ String.lt_trans hk (hlt m' hm'))
        rw [if_pos hk, List.mem_cons]
        constructor
        · rintro (hm | hm)
          · exact Or.inl hm
          · exact Or.inr ⟨hm, hne m hm⟩
        · rintro (hm | hm)
          · exact Or.inl hm
          · exact Or.inr hm.1
      · rw [if_neg hk]
        by_cases heq : key = k
        · subst heq
          have hne : ∀ m' ∈ ms, m'.1 ≠ key := by
            intro m' hm' heq
            exact String.lt_irrefl _ (heq ▸ hlt m' hm')
          rw [if_pos rfl, List.mem_cons, List.mem_cons]
          constructor
          · rintro (hm | hm)
            · exact Or.inl hm
            · exact Or.inr ⟨Or.inr hm, hne m hm⟩
          · rintro (hm | ⟨rfl | hm, hm'⟩)
            · exact Or.inl hm
            · exact absurd rfl hm'
            · exact Or.inr hm
        · rw [if_neg heq, List.mem_cons, ih hms, List.mem_cons]
          constructor
          · rintro (rfl | hm | ⟨hm, hm'⟩)
            · exact Or.inr ⟨Or.inl rfl, fun hc => heq hc.symm⟩
            · exact Or.inl hm
            · exact Or.inr ⟨Or.inr hm, hm'⟩
          · rintro (hm | ⟨rfl | hm, hm'⟩)
            · exact Or.inr (Or.inl hm)
            · exact Or.inl rfl
            · exact Or.inr (Or.inr ⟨hm, hm'⟩)

/-- Setting a member keeps the list ordered. -/
theorem keysIncrease_setMember {key : String} {value : Json} {ms : List (String × Json)}
    (h : keysIncrease ms) : keysIncrease (setMember key value ms) := by
  induction ms with
  | nil => exact keysIncrease_cons.mpr ⟨by simp, keysIncrease_nil⟩
  | cons m₀ ms ih =>
      obtain ⟨k, v⟩ := m₀
      obtain ⟨hlt, hms⟩ := keysIncrease_cons.mp h
      rw [setMember]
      by_cases hk : key < k
      · rw [if_pos hk]
        refine keysIncrease_cons.mpr ⟨?_, h⟩
        intro m hm
        rcases List.mem_cons.mp hm with rfl | hm
        · exact hk
        · exact String.lt_trans hk (hlt m hm)
      · rw [if_neg hk]
        by_cases heq : key = k
        · subst heq
          rw [if_pos rfl]
          exact keysIncrease_cons.mpr ⟨hlt, hms⟩
        · rw [if_neg heq]
          refine keysIncrease_cons.mpr ⟨?_, ih hms⟩
          intro m hm
          rcases (mem_setMember hms m).mp hm with rfl | ⟨hm, -⟩
          · exact lt_of_le_of_ne (String.not_lt.mp hk) (fun hc => heq hc.symm)
          · exact hlt m hm

/-! ### The last member of a key -/

/-- After one more member, that member is the last of its key, and the others are what they
were. -/
theorem isLast_append_singleton {members : List (String × Json)} {x m : String × Json} :
    IsLast (members ++ [x]) m ↔ m = x ∨ (IsLast members m ∧ m.1 ≠ x.1) := by
  constructor
  · rintro ⟨before, after, hsplit, hafter⟩
    rcases List.eq_nil_or_concat after with rfl | ⟨after, y, rfl⟩
    · obtain ⟨-, hx⟩ := List.append_inj' hsplit rfl
      exact Or.inl (List.cons.inj hx).1.symm
    · rw [List.concat_eq_append, ← List.cons_append, ← List.append_assoc] at hsplit
      obtain ⟨hmembers, hy⟩ := List.append_inj' hsplit rfl
      obtain rfl := (List.cons.inj hy).1
      refine Or.inr ⟨⟨before, after, hmembers, fun m' hm' => hafter m' (by simp [hm'])⟩, ?_⟩
      exact fun hc => hafter x (by simp) hc.symm
  · rintro (rfl | ⟨⟨before, after, rfl, hafter⟩, hne⟩)
    · exact ⟨members, [], rfl, by simp⟩
    · refine ⟨before, after ++ [x], by simp, ?_⟩
      intro m' hm'
      rcases List.mem_append.mp hm' with hm' | hm'
      · exact hafter m' hm'
      · rw [List.mem_singleton.mp hm']
        exact fun hc => hne hc.symm

theorem not_isLast_nil {m : String × Json} : ¬ IsLast [] m := by
  rintro ⟨before, after, h, -⟩
  exact absurd h.symm (by simp)

/-- The last of its key in two lists together is the last in the second, or the last in the first
with no other of its key in the second. -/
theorem isLast_append {a b : List (String × Json)} {m : String × Json} :
    IsLast (a ++ b) m ↔ IsLast b m ∨ (IsLast a m ∧ ∀ m' ∈ b, m'.1 ≠ m.1) := by
  induction b using List.reverseRecOn with
  | nil => simp [not_isLast_nil]
  | append_singleton b x ih =>
      rw [← List.append_assoc, isLast_append_singleton, ih, isLast_append_singleton,
        List.forall_mem_append, List.forall_mem_singleton]
      constructor
      · rintro (h | ⟨h | ⟨h, hb⟩, hx⟩)
        · exact Or.inl (Or.inl h)
        · exact Or.inl (Or.inr ⟨h, hx⟩)
        · exact Or.inr ⟨h, hb, hx.symm⟩
      · rintro ((h | ⟨h, hx⟩) | ⟨h, hb, hx⟩)
        · exact Or.inl h
        · exact Or.inr ⟨Or.inl h, hx⟩
        · exact Or.inr ⟨Or.inr ⟨h, hb⟩, hx.symm⟩

theorem isLast_cons {x m : String × Json} {ms : List (String × Json)} :
    IsLast (x :: ms) m ↔ IsLast ms m ∨ (m = x ∧ ∀ m' ∈ ms, m'.1 ≠ m.1) := by
  have hsingle : IsLast ([] ++ [x]) m ↔ m = x := by
    rw [isLast_append_singleton, or_iff_left]
    exact fun h => not_isLast_nil h.1
  rw [← List.singleton_append, isLast_append, ← hsingle, List.nil_append]

/-- Where keys do not repeat, every member is the last of its key. -/
theorem isLast_iff_mem {members : List (String × Json)} (h : (members.map Prod.fst).Nodup)
    {m : String × Json} : IsLast members m ↔ m ∈ members := by
  constructor
  · rintro ⟨before, after, rfl, -⟩
    simp
  · intro hm
    obtain ⟨before, after, rfl⟩ := List.append_of_mem hm
    refine ⟨before, after, rfl, fun m' hm' heq => ?_⟩
    rw [List.map_append, List.map_cons, List.nodup_append, List.nodup_cons] at h
    exact h.2.1.1 (heq ▸ List.mem_map_of_mem hm')

namespace ObjectOf

theorem nil : ObjectOf [] [] :=
  ⟨keysIncrease_nil, fun _ => ⟨fun hm => absurd hm List.not_mem_nil, fun h => absurd h not_isLast_nil⟩⟩

/-- One more member is set in the object. -/
theorem append_singleton {members ms : List (String × Json)} (h : ObjectOf members ms)
    (x : String × Json) : ObjectOf (members ++ [x]) (setMember x.1 x.2 ms) := by
  refine ⟨keysIncrease_setMember h.increasing, ?_⟩
  intro m
  rw [mem_setMember h.increasing, isLast_append_singleton, h.mem_iff]

/-- A list of members stands for one object. -/
theorem unique {members ms ms' : List (String × Json)} (h : ObjectOf members ms)
    (h' : ObjectOf members ms') : ms = ms' :=
  eq_of_mem_iff h.increasing h'.increasing fun m => (h.mem_iff m).trans (h'.mem_iff m).symm

/-- Members that are ordered already stand for themselves. -/
theorem self {ms : List (String × Json)} (h : keysIncrease ms) : ObjectOf ms ms :=
  ⟨h, fun _ => (isLast_iff_mem (nodup_keys h)).symm⟩

/-- Where keys do not repeat, the order of the members does not count. -/
theorem perm {members members' ms : List (String × Json)} (h : ObjectOf members ms)
    (hnodup : (members.map Prod.fst).Nodup) (hperm : members.Perm members') :
    ObjectOf members' ms := by
  have hnodup' : (members'.map Prod.fst).Nodup := (hperm.map Prod.fst).nodup_iff.mp hnodup
  refine ⟨h.increasing, fun m => ?_⟩
  rw [h.mem_iff, isLast_iff_mem hnodup, isLast_iff_mem hnodup', hperm.mem_iff]

/-- A member does not count if another of its key comes later. -/
theorem drop {before after ms : List (String × Json)} {x : String × Json}
    (h : ObjectOf (before ++ x :: after) ms) (later : ∃ m ∈ after, m.1 = x.1) :
    ObjectOf (before ++ after) ms := by
  obtain ⟨x', hx', hkey⟩ := later
  refine ⟨h.increasing, fun m => ?_⟩
  have hlast : IsLast (x :: after) m ↔ IsLast after m := by
    rw [isLast_cons, or_iff_left]
    rintro ⟨rfl, hafter⟩
    exact hafter x' hx' hkey
  have hother : (∀ m' ∈ x :: after, m'.1 ≠ m.1) ↔ ∀ m' ∈ after, m'.1 ≠ m.1 := by
    rw [List.forall_mem_cons, and_iff_right_iff_imp]
    exact fun hafter => hkey ▸ hafter x' hx'
  rw [h.mem_iff, isLast_append, isLast_append, hlast, hother]

end ObjectOf

/-- Entering members after others that stand for `ms`. -/
theorem objectOf_foldl (members : List (String × Json)) {before ms : List (String × Json)}
    (h : ObjectOf before ms) :
    ObjectOf (before ++ members) (members.foldl (fun ms m => setMember m.1 m.2 ms) ms) := by
  induction members generalizing before ms with
  | nil => simpa using h
  | cons m members ih =>
      have hm := ih (h.append_singleton m)
      rwa [List.append_assoc, List.singleton_append] at hm

/-- `ofMembers` makes the object that the members stand for. -/
theorem ofMembers_eq_iff {members ms : List (String × Json)} :
    ofMembers members = .object ms ↔ ObjectOf members ms := by
  have hfold := objectOf_foldl members .nil
  rw [List.nil_append] at hfold
  constructor
  · intro h
    rw [← Json.object.inj h]
    exact hfold
  · intro h
    rw [ofMembers, hfold.unique h]

end HttpGet.Json
