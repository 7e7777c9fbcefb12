/-
Looking names up in lists of entries.

A list of entries gives a name the value of the first entry that has it.  An entry in front
settles its own name and no other, and taking out all entries of a name leaves every other name
as it was.
Where no name is given twice, an entry is found exactly if it is there; names that increase are
such names.
-/

namespace HttpGet

variable {α : Type}

theorem lookup_cons_eq (key key' : String) (value : α) (entries : List (String × α)) :
    ((key, value) :: entries).lookup key' =
      if key' = key then some value else entries.lookup key' := by
  by_cases h : key' = key
  · rw [if_pos h, h, List.lookup_cons_self]
  · rw [if_neg h, List.lookup_cons, beq_false_of_ne h]

/-- Where names do not repeat, every entry is the first of its name. -/
theorem lookup_eq_some_iff_mem {key : String} {value : α} {entries : List (String × α)}
    (h : (entries.map Prod.fst).Nodup) :
    entries.lookup key = some value ↔ (key, value) ∈ entries := by
  induction entries with
  | nil => simp
  | cons entry entries ih =>
      obtain ⟨name, value'⟩ := entry
      obtain ⟨hname, hrest⟩ := List.nodup_cons.mp h
      rw [lookup_cons_eq, List.mem_cons, Prod.mk.injEq]
      by_cases hkey : key = name
      · have hnone : (key, value) ∉ entries := fun hmem =>
          hname (List.mem_map.mpr ⟨_, hmem, hkey⟩)
        rw [if_pos hkey, Option.some.injEq]
        constructor
        · intro hvalue
          exact Or.inl ⟨hkey, hvalue.symm⟩
        · rintro (⟨-, hvalue⟩ | hmem)
          · exact hvalue.symm
          · exact absurd hmem hnone
      · rw [if_neg hkey, ih hrest]
        constructor
        · exact Or.inr
        · rintro (⟨hname, -⟩ | hmem)
          · exact absurd hname hkey
          · exact hmem

/-- Keys that increase do not repeat. -/
theorem nodup_of_increasing {keys : List String} (h : keys.Pairwise (· < ·)) : keys.Nodup := by
  refine h.imp ?_
  rintro a _ hab rfl
  exact String.lt_irrefl a hab

/-- A key that is less than those of all entries is not among them. -/
theorem lookup_eq_none_of_lt {key : String} {entries : List (String × α)}
    (h : ∀ e ∈ entries, key < e.1) : entries.lookup key = none := by
  rw [List.lookup_eq_none_iff]
  intro e he
  rw [bne_iff_ne]
  intro heq
  exact String.lt_irrefl key (heq ▸ h e he)

theorem lookup_filter_key (key key' : String) (entries : List (String × α)) :
    (entries.filter (·.1 ≠ key)).lookup key' =
      if key' = key then none else entries.lookup key' := by
  induction entries with
  | nil => simp
  | cons entry entries ih =>
      obtain ⟨name, value⟩ := entry
      rw [lookup_cons_eq]
      by_cases hname : name = key
      · rw [List.filter_cons_of_neg (by simpa using hname), ih, hname]
        by_cases h : key' = key
        · rw [if_pos h, if_pos h]
        · rw [if_neg h, if_neg h, if_neg h]
      · rw [List.filter_cons_of_pos (by simpa using hname), lookup_cons_eq, ih]
        by_cases h : key' = key
        · rw [if_pos h, if_pos h, if_neg (by rw [h]; exact Ne.symm hname)]
        · rw [if_neg h, if_neg h]

end HttpGet
