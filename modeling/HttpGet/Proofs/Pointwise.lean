/-
Lists that are related item by item.

Lists are read, written and derived item by item, and what is known of the items is known of the
lists.  Here a list stands in relation to another if the two are equally long and their items are
related in order; the lemmas take such a relation apart, and put it together.
-/
import Mathlib.Data.List.Forall2

namespace HttpGet

variable {α β γ : Type}

/-- Whatever stands on the right stands in relation to something on the left. -/
theorem exists_left_of_forall₂ {R : α → β → Prop} {as : List α} {bs : List β}
    (h : List.Forall₂ R as bs) {b : β} (hb : b ∈ bs) : ∃ a ∈ as, R a b := by
  induction h with
  | nil => exact absurd hb (by simp)
  | @cons a b' as bs hab _ ih =>
      rcases List.mem_cons.mp hb with rfl | hb
      · exact ⟨a, by simp, hab⟩
      · obtain ⟨a', ha', hab'⟩ := ih hb
        exact ⟨a', by simp [ha'], hab'⟩

/-- What holds of an item that stands in relation to another holds of all items. -/
theorem forall_left_of_forall₂ {Q : α → Prop} {as : List α} {bs : List β}
    (h : List.Forall₂ (fun a _ => Q a) as bs) : ∀ a ∈ as, Q a := by
  induction h with
  | nil => simp
  | cons ha _ ih => exact List.forall_mem_cons.mpr ⟨ha, ih⟩

/-- Items that each stand in relation to something are the left of a related list. -/
theorem exists_right_of_forall_mem {R : α → β → Prop} {as : List α}
    (h : ∀ a ∈ as, ∃ b, R a b) : ∃ bs, List.Forall₂ R as bs := by
  induction as with
  | nil => exact ⟨[], .nil⟩
  | cons a as ih =>
      obtain ⟨⟨b, hb⟩, has⟩ := List.forall_mem_cons.mp h
      obtain ⟨bs, hbs⟩ := ih has
      exact ⟨b :: bs, .cons hb hbs⟩

/-- What stands in relation to a list with an item in the middle has one there too. -/
theorem exists_of_forall₂_append_cons {R : α → β → Prop} {before after : List α}
    {a : α} {bs : List β} (h : List.Forall₂ R (before ++ a :: after) bs) :
    ∃ us u vs, bs = us ++ u :: vs ∧ List.Forall₂ R before us ∧ R a u ∧ List.Forall₂ R after vs := by
  induction before generalizing bs with
  | nil =>
      obtain ⟨u, vs, hu, hvs, rfl⟩ := List.forall₂_cons_left_iff.mp h
      exact ⟨[], u, vs, rfl, .nil, hu, hvs⟩
  | cons x before ih =>
      obtain ⟨b, bs', hb, hbs', rfl⟩ := List.forall₂_cons_left_iff.mp h
      obtain ⟨us, u, vs, rfl, hus, hu, hvs⟩ := ih hbs'
      exact ⟨b :: us, u, vs, rfl, .cons hb hus, hu, hvs⟩

/-- A relation that goes through a third value goes through a third list. -/
theorem exists_middle_of_forall₂ {R : α → γ → Prop} {S : γ → β → Prop} {as : List α}
    {bs : List β} (h : List.Forall₂ (fun a b => ∃ c, R a c ∧ S c b) as bs) :
    ∃ cs, List.Forall₂ R as cs ∧ List.Forall₂ S cs bs := by
  induction h with
  | nil => exact ⟨[], .nil, .nil⟩
  | cons hab _ ih =>
      obtain ⟨c, hac, hcb⟩ := hab
      obtain ⟨cs, has, hbs⟩ := ih
      exact ⟨c :: cs, .cons hac has, .cons hcb hbs⟩

/-- Relations that agree on the items agree on the list. -/
theorem forall₂_congr_of_mem {R S : α → β → Prop} {xs : List α} {ys : List β}
    (h : ∀ x ∈ xs, ∀ y, R x y ↔ S x y) : List.Forall₂ R xs ys ↔ List.Forall₂ S xs ys := by
  induction xs generalizing ys with
  | nil => rw [List.forall₂_nil_left_iff, List.forall₂_nil_left_iff]
  | cons x xs ih =>
      obtain ⟨hx, hxs⟩ := List.forall_mem_cons.mp h
      cases ys with
      | nil => simp
      | cons y ys => rw [List.forall₂_cons, List.forall₂_cons, hx, ih hxs]

/-! ### Reading item by item -/

theorem mapM_eq_ok_iff {ε : Type} {f : α → Except ε β} {xs : List α} {ys : List β} :
    xs.mapM f = .ok ys ↔ List.Forall₂ (fun x y => f x = .ok y) xs ys := by
  induction xs generalizing ys with
  | nil =>
      rw [List.mapM_nil, List.forall₂_nil_left_iff]
      exact ⟨fun h => (Except.ok.inj h).symm, fun h => h ▸ rfl⟩
  | cons x xs ih =>
      rw [List.mapM_cons, List.forall₂_cons_left_iff]
      cases hx : f x with
      | error e => simp [bind, Except.bind]
      | ok y =>
          cases hxs : xs.mapM f with
          | error e =>
              have hnone : ∀ ys, ¬ List.Forall₂ (fun x y => f x = .ok y) xs ys := by
                intro ys h
                rw [← ih, hxs] at h
                exact absurd h (by simp)
              simp [bind, Except.bind, hnone]
          | ok ys' =>
              have hsome : ∀ ys, List.Forall₂ (fun x y => f x = .ok y) xs ys ↔ ys' = ys := by
                intro ys
                rw [← ih, hxs, Except.ok.injEq]
              simp [bind, Except.bind, pure, Except.pure, hsome, eq_comm]

/-- The first item that is not read tells the error of the list. -/
theorem mapM_of_error {ε : Type} {f : α → Except ε β} {before : List α} {bad : α}
    {e : ε} (h : ∀ x ∈ before, ∃ y, f x = .ok y) (hbad : f bad = .error e) (after : List α) :
    (before ++ bad :: after).mapM f = .error e := by
  induction before with
  | nil =>
      rw [List.nil_append, List.mapM_cons, hbad]
      rfl
  | cons x before ih =>
      obtain ⟨⟨y, hy⟩, hbefore⟩ := List.forall_mem_cons.mp h
      rw [List.cons_append, List.mapM_cons, hy, ih hbefore]
      rfl

/-- What is wrong with a list is wrong with an item. -/
theorem exists_mem_of_mapM_error {ε : Type} {f : α → Except ε β} {xs : List α} {e : ε}
    (h : xs.mapM f = .error e) : ∃ x ∈ xs, f x = .error e := by
  induction xs with
  | nil => exact absurd h (by simp [pure, Except.pure])
  | cons x xs ih =>
      rw [List.mapM_cons] at h
      cases hx : f x with
      | error e' =>
          rw [hx] at h
          obtain rfl : e' = e := Except.error.inj h
          exact ⟨x, List.mem_cons_self, hx⟩
      | ok y =>
          cases hxs : xs.mapM f with
          | error e' =>
              rw [hx, hxs] at h
              obtain rfl : e' = e := Except.error.inj h
              obtain ⟨x', hmem, hx'⟩ := ih hxs
              exact ⟨x', List.mem_cons_of_mem _ hmem, hx'⟩
          | ok ys =>
              rw [hx, hxs] at h
              exact absurd h (by simp [bind, Except.bind, pure, Except.pure])

end HttpGet
