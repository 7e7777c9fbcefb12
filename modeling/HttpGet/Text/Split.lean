/-
Cutting lists at separators.

`splitWhere` gives the pieces between all separators, `cutAt` the two sides of the first
one, `cutAtLast` those of the last one.
-/

namespace HttpGet

variable {α : Type}

/-- The pieces of a list between the elements that separate. -/
def splitWhere (sep : α → Bool) : List α → List (List α)
  | [] => [[]]
  | x :: rest =>
    if sep x then [] :: splitWhere sep rest
    else match splitWhere sep rest with
      | piece :: pieces => (x :: piece) :: pieces
      | [] => [[x]]

/-- What stands before the first separator, and what stands after it if there is one. -/
def cutAt (sep : α → Bool) (xs : List α) : List α × Option (List α) :=
  match xs.dropWhile (!sep ·) with
  | [] => (xs, none)
  | _ :: after => (xs.takeWhile (!sep ·), some after)

/-- What stands before the last separator, if there is one, and what stands after it. -/
def cutAtLast (sep : α → Bool) (xs : List α) : Option (List α) × List α :=
  match cutAt sep xs.reverse with
  | (after, before) => (before.map List.reverse, after.reverse)

/-- Lists joined by a separator. -/
def joinWith (sep : List α) : List (List α) → List α
  | [] => []
  | [piece] => piece
  | piece :: pieces => piece ++ sep ++ joinWith sep pieces

/-- What holds of a separator and of lists holds of the lists joined by it. -/
theorem forall_mem_joinWith {p : α → Prop} {sep : List α} {pieces : List (List α)}
    (hsep : ∀ x ∈ sep, p x) (hpieces : ∀ piece ∈ pieces, ∀ x ∈ piece, p x) :
    ∀ x ∈ joinWith sep pieces, p x := by
  induction pieces with
  | nil => simp [joinWith]
  | cons piece pieces ih =>
    obtain ⟨hpiece, hrest⟩ := List.forall_mem_cons.mp hpieces
    cases pieces with
    | nil => exact hpiece
    | cons next pieces =>
      rw [joinWith.eq_3 _ _ _ (List.cons_ne_nil next pieces)]
      simp only [List.forall_mem_append]
      exact ⟨⟨hpiece, hsep⟩, ih hrest⟩

@[simp] theorem splitWhere_ne_nil (sep : α → Bool) (xs : List α) : splitWhere sep xs ≠ [] := by
  cases xs with
  | nil => simp [splitWhere]
  | cons x rest =>
    rw [splitWhere]
    split
    · simp
    · split <;> simp

/-- What stands after a separator is shorter than the whole. -/
theorem length_of_cutAt {sep : α → Bool} {xs before after : List α}
    (h : cutAt sep xs = (before, some after)) : after.length < xs.length := by
  unfold cutAt at h
  split at h
  · simp at h
  · rename_i x rest hd
    simp only [Prod.mk.injEq, Option.some.injEq] at h
    have := (List.dropWhile_sublist (l := xs) (!sep ·)).length_le
    rw [hd, h.2] at this
    exact this

end HttpGet
