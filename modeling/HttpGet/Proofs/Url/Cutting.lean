/-
Cutting what was put together.

Pieces without separators, joined by one, are the pieces of the whole; and where the first
separator stands is known once nothing before it separates.
-/
import HttpGet.Text.Split

namespace HttpGet

variable {α : Type} {sep : α → Bool}

/-- What holds of all members of a list is checked one by one: there are too many characters to
ask of each whether it is a member. -/
theorem forall_mem_of_all {p : α → Prop} [DecidablePred p] {xs : List α}
    (h : xs.all (fun x => decide (p x)) = true) : ∀ x ∈ xs, p x :=
  fun x hx => of_decide_eq_true (List.all_eq_true.mp h x hx)

/-! ### All separators -/

theorem splitWhere_eq_splitOnP (sep : α → Bool) (xs : List α) :
    splitWhere sep xs = xs.splitOnP sep := by
  induction xs with
  | nil => rfl
  | cons x rest ih =>
      rw [splitWhere, List.splitOnP_cons_eq_if_modifyHead, ih]
      cases h : rest.splitOnP sep with
      | nil => exact absurd h (List.splitOnP_ne_nil sep rest)
      | cons piece pieces => rfl

theorem splitWhere_append_cons {xs rest : List α} {x : α} (hxs : ∀ y ∈ xs, sep y = false)
    (hx : sep x = true) : splitWhere sep (xs ++ x :: rest) = xs :: splitWhere sep rest := by
  simp only [splitWhere_eq_splitOnP]
  exact List.splitOnP_append_cons_of_forall_mem hxs x hx rest

/-- Pieces without separators are those of the whole that they are joined to. -/
theorem splitWhere_joinWith {x : α} {pieces : List (List α)} (hx : sep x = true)
    (hne : pieces ≠ []) (h : ∀ piece ∈ pieces, ∀ y ∈ piece, sep y = false) :
    splitWhere sep (joinWith [x] pieces) = pieces := by
  induction pieces with
  | nil => exact absurd rfl hne
  | cons piece pieces ih =>
      obtain ⟨hpiece, hrest⟩ := List.forall_mem_cons.mp h
      cases pieces with
      | nil =>
          rw [joinWith, splitWhere_eq_splitOnP]
          exact List.splitOnP_eq_singleton hpiece
      | cons next pieces =>
          have hjoin : joinWith [x] (piece :: next :: pieces) =
              piece ++ x :: joinWith [x] (next :: pieces) := by simp [joinWith]
          rw [hjoin, splitWhere_append_cons hpiece hx, ih (by simp) hrest]

/-- What is cut at all its separators is joined again by them. -/
theorem joinWith_splitWhere [DecidableEq α] (x : α) (xs : List α) :
    joinWith [x] (splitWhere (· = x) xs) = xs := by
  induction xs with
  | nil => rfl
  | cons y rest ih =>
      obtain ⟨piece, pieces, hpieces⟩ := List.exists_cons_of_ne_nil (splitWhere_ne_nil (· = x) rest)
      rw [hpieces] at ih
      rw [splitWhere, hpieces]
      by_cases hy : y = x
      · rw [if_pos (decide_eq_true hy), hy, joinWith]
        · exact congrArg (x :: ·) ih
        · simp
      · rw [if_neg (by simpa using hy)]
        cases pieces with
        | nil => exact congrArg (y :: ·) ih
        | cons next pieces => exact congrArg (y :: ·) ih

/-- A piece has no separators, and nothing that the whole has not. -/
theorem mem_splitWhere {xs piece : List α} (h : piece ∈ splitWhere sep xs) :
    ∀ y ∈ piece, sep y = false ∧ y ∈ xs := by
  induction xs generalizing piece with
  | nil =>
      obtain rfl : piece = [] := by simpa [splitWhere] using h
      simp
  | cons x rest ih =>
      have hrest : ∀ {piece}, piece ∈ splitWhere sep rest →
          ∀ y ∈ piece, sep y = false ∧ y ∈ x :: rest :=
        fun hpiece y hy => ⟨(ih hpiece y hy).1, List.mem_cons_of_mem x (ih hpiece y hy).2⟩
      rw [splitWhere] at h
      split at h
      · obtain rfl | h := List.mem_cons.mp h
        · simp
        · exact hrest h
      · rename_i hx
        split at h
        · rename_i first pieces hpieces
          rw [hpieces] at hrest
          obtain rfl | h := List.mem_cons.mp h
          · refine List.forall_mem_cons.mpr ⟨⟨by simpa using hx, by simp⟩, ?_⟩
            exact hrest List.mem_cons_self
          · exact hrest (List.mem_cons_of_mem _ h)
        · obtain rfl : piece = [x] := by simpa using h
          simpa using hx

/-! ### The first and the last separator -/

theorem cutAt_of_none {xs : List α} (h : ∀ x ∈ xs, sep x = false) :
    cutAt sep xs = (xs, none) := by
  have hdrop : xs.dropWhile (!sep ·) = [] := by
    rw [← List.append_nil xs, List.dropWhile_append_of_pos fun x hx => by rw [h x hx, Bool.not_false]]
    rfl
  rw [cutAt, hdrop]

theorem cutAt_append_cons {before after : List α} {x : α} (h : ∀ y ∈ before, sep y = false)
    (hx : sep x = true) : cutAt sep (before ++ x :: after) = (before, some after) := by
  have hbefore : ∀ y ∈ before, (!sep y) = true := fun y hy => by rw [h y hy, Bool.not_false]
  have hdrop : (before ++ x :: after).dropWhile (!sep ·) = x :: after := by
    rw [List.dropWhile_append_of_pos hbefore, List.dropWhile_cons_of_neg (by simp [hx])]
  have htake : (before ++ x :: after).takeWhile (!sep ·) = before := by
    rw [List.takeWhile_append_of_pos hbefore, List.takeWhile_cons_of_neg (by simp [hx]),
      List.append_nil]
  rw [cutAt, hdrop]
  exact congrArg (·, some after) htake

theorem cutAtLast_of_none {xs : List α} (h : ∀ x ∈ xs, sep x = false) :
    cutAtLast sep xs = (none, xs) := by
  rw [cutAtLast, cutAt_of_none fun x hx => h x (List.mem_reverse.mp hx)]
  simp

theorem cutAt_cons_of_neg {x : α} (hx : sep x = false) (xs : List α) :
    cutAt sep (x :: xs) = (x :: (cutAt sep xs).1, (cutAt sep xs).2) := by
  rw [cutAt, cutAt, List.dropWhile_cons_of_pos (by simp [hx]),
    List.takeWhile_cons_of_pos (by simp [hx])]
  split <;> rfl

theorem cutAtLast_append_singleton_of_pos {x : α} (hx : sep x = true) (xs : List α) :
    cutAtLast sep (xs ++ [x]) = (some xs, []) := by
  have hcut : cutAt sep ([] ++ x :: xs.reverse) = ([], some xs.reverse) :=
    cutAt_append_cons (by simp) hx
  rw [cutAtLast, List.reverse_append, List.reverse_singleton, List.singleton_append,
    ← List.nil_append (x :: _), hcut]
  simp

theorem cutAtLast_append_singleton_of_neg {x : α} (hx : sep x = false) (xs : List α) :
    (cutAtLast sep (xs ++ [x])).2 = (cutAtLast sep xs).2 ++ [x] := by
  rw [cutAtLast, cutAtLast, List.reverse_append, List.reverse_singleton, List.singleton_append,
    cutAt_cons_of_neg hx]
  exact List.reverse_cons

end HttpGet
