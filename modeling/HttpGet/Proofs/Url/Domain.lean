/-
The ASCII form of host names.

What a name becomes is ASCII, without a character that would end the host or hide it.  A name
in small letters of ASCII that has no Punycode in it is its own ASCII form.
-/
import HttpGet.Proofs.Url.Cutting
import HttpGet.Url.Domain

namespace HttpGet

/-! ### Punycode is ASCII -/

namespace Punycode

theorem isBasic_digitChar {d : Nat} (h : d < 36) : isBasic (digitChar d) = true := by
  have all : ∀ d : Fin 36, isBasic (digitChar d.val) = true := by decide
  exact all ⟨d, h⟩

theorem threshold_le (k bias : Nat) : threshold k bias ≤ 26 := by
  rw [threshold]
  omega

theorem isBasic_of_mem_encodeDistance {bias k q : Nat} :
    ∀ c ∈ encodeDistance bias k q, isBasic c = true := by
  induction k, q using encodeDistance.induct bias with
  | case1 k q t h =>
      have hq : q < 36 := by
        have := threshold_le k bias
        omega
      rw [encodeDistance, if_pos h]
      simpa using isBasic_digitChar hq
  | case2 k q t h ih =>
      have hdigit : t + (q - t) % (36 - t) < 36 := by
        have ht : t ≤ 26 := threshold_le k bias
        have hlt : (q - t) % (36 - t) < 36 - t := Nat.mod_lt _ (by omega)
        omega
      rw [encodeDistance, if_neg h]
      exact List.forall_mem_cons.mpr ⟨isBasic_digitChar hdigit, ih⟩

/-- Whether what is written so far is ASCII. -/
def Encoding.IsBasic (e : Encoding) : Prop := ∀ c ∈ e.written, isBasic c = true

theorem Encoding.IsBasic.pass {e : Encoding} (he : e.IsBasic) (basic n : Nat) (c : Char) :
    (e.pass basic n c).IsBasic := by
  rw [Encoding.pass]
  split
  · exact he
  · split
    · exact List.forall_mem_append.mpr ⟨he, isBasic_of_mem_encodeDistance⟩
    · exact he

theorem Encoding.IsBasic.foldl_pass {e : Encoding} (he : e.IsBasic) (basic n : Nat)
    (label : List Char) : (label.foldl (Encoding.pass basic n) e).IsBasic := by
  induction label generalizing e with
  | nil => exact he
  | cons c rest ih => exact ih (he.pass basic n c)

theorem Encoding.IsBasic.insertAll {e : Encoding} (he : e.IsBasic) (label : List Char)
    (basic n : Nat) (codes : List Nat) :
    (Encoding.insertAll label basic codes n e).IsBasic := by
  induction codes generalizing n e with
  | nil => exact he
  | cons m rest ih =>
      rw [Encoding.insertAll]
      refine ih ?_ (m + 1)
      refine Encoding.IsBasic.foldl_pass ?_ basic m label
      exact he

theorem isBasic_of_mem_encode {label : List Char} : ∀ c ∈ encode label, isBasic c = true := by
  refine Encoding.IsBasic.insertAll ?_ label _ _ _
  have hfilter : ∀ c ∈ label.filter isBasic, isBasic c = true := fun c hc =>
    (List.mem_filter.mp hc).2
  unfold Encoding.IsBasic
  split
  · simp
  · exact List.forall_mem_append.mpr ⟨hfilter, by simp [isBasic]⟩

end Punycode

namespace Domain

theorem isBasic_of_mem_writeLabel {label : List Char} :
    ∀ c ∈ writeLabel label, Punycode.isBasic c = true := by
  rw [writeLabel]
  split
  · rename_i h
    exact List.all_eq_true.mp h
  · exact List.forall_mem_append.mpr ⟨forall_mem_of_all (by decide), Punycode.isBasic_of_mem_encode⟩

/-- What may stand in the ASCII form of a name. -/
theorem of_toAscii? {name ascii : List Char} (h : toAscii? name = some ascii) :
    ascii ≠ [] ∧ ∀ c ∈ ascii, c.toNat < 0x80 ∧ forbidden c = false := by
  obtain ⟨labels, -, h⟩ := Option.bind_eq_some_iff.mp h
  have hbasic : ∀ c ∈ joinWith ['.'] (labels.map writeLabel), Punycode.isBasic c = true := by
    refine forall_mem_joinWith (forall_mem_of_all (by decide)) fun piece hpiece => ?_
    obtain ⟨label, -, rfl⟩ := List.mem_map.mp hpiece
    exact isBasic_of_mem_writeLabel
  generalize joinWith ['.'] (labels.map writeLabel) = joined at h hbasic
  by_cases hrefused : (joined.isEmpty || joined.any forbidden) = true
  · simp [hrefused] at h
  · obtain rfl : joined = ascii := by simpa [hrefused] using h
    simp only [Bool.or_eq_true, not_or, List.isEmpty_iff, List.any_eq_true, not_exists,
      not_and] at hrefused
    exact ⟨hrefused.1, fun c hc => ⟨by simpa [Punycode.isBasic] using hbasic c hc,
      Bool.eq_false_iff.mpr (hrefused.2 c hc)⟩⟩

/-! ### Names that stay -/

theorem keepDirection_of_ascii {labels : List (List Char)}
    (h : ∀ label ∈ labels, ∀ c ∈ label, c.toNat < 0x80) : keepDirection labels = true := by
  have hturning : ∀ c : Char, c.toNat < 0x80 → (Direction.ofChar c).isTurning = false := by
    intro c hc
    simp only [Direction.ofChar, if_pos hc]
    split
    · rfl
    · split <;> rfl
  have hnone : ((labels.map (·.map Direction.ofChar)).any (·.any Direction.isTurning)) = false := by
    simp only [List.any_map, List.any_eq_false, Function.comp_apply, Bool.not_eq_true]
    exact fun label hlabel c hc => hturning c (h label hlabel c hc)
  simp only [keepDirection, hnone, Bool.not_false, Bool.true_or]

/-- Labels without Punycode stand for themselves. -/
theorem mapM_label? {labels : List (List Char)}
    (h : ∀ label ∈ labels, codeMark.isPrefixOf label = false) :
    labels.mapM label? = some labels := by
  induction labels with
  | nil => rfl
  | cons label rest ih =>
      obtain ⟨hlabel, hrest⟩ := List.forall_mem_cons.mp h
      have hread : label? label = some label := by simp [label?, hlabel]
      rw [List.mapM_cons, hread, ih hrest]
      rfl

/-- Labels in ASCII are written as they are. -/
theorem map_writeLabel {labels : List (List Char)}
    (h : ∀ label ∈ labels, label.all Punycode.isBasic = true) :
    labels.map writeLabel = labels := by
  conv => rhs; rw [← List.map_id labels]
  exact List.map_congr_left fun label hlabel => if_pos (h label hlabel)

/-- A name in small letters of ASCII without Punycode is its own ASCII form. -/
theorem toAscii?_of_small {name : List Char} (hne : name ≠ [])
    (hascii : ∀ c ∈ name, c.toNat < 0x80 ∧ c.toLower = c ∧ forbidden c = false)
    (hcode : ∀ label ∈ splitWhere (· = '.') name, codeMark.isPrefixOf label = false) :
    toAscii? name = some name := by
  have hlabel : ∀ label ∈ splitWhere (· = '.') name, ∀ c ∈ label, c.toNat < 0x80 :=
    fun label hlabel c hc => (hascii c (mem_splitWhere hlabel c hc).2).1
  have hbasic : ∀ label ∈ splitWhere (· = '.') name, label.all Punycode.isBasic = true :=
    fun label h => List.all_eq_true.mpr fun c hc => by
      simpa [Punycode.isBasic] using hlabel label h c hc
  have hmapped : mapped? name = some name :=
    mapped?_of_small (fun c hc => (hascii c hc).1) fun c hc => (hascii c hc).2.1
  have hwritable : (splitWhere (· = '.') name).all isWritable = true :=
    List.all_eq_true.mpr fun label h => by rw [isWritable, hbasic label h, Bool.true_or]
  have hlabels : labels? name = some (splitWhere (· = '.') name) := by
    rw [labels?, hmapped, Option.bind_eq_bind, Option.bind_some, mapM_label? hcode]
    exact if_pos (by rw [hwritable, keepDirection_of_ascii hlabel, Bool.and_self])
  have hforbidden : name.any forbidden = false :=
    List.any_eq_false.mpr fun c hc => by simp [(hascii c hc).2.2]
  have hrefused : (name.isEmpty || name.any forbidden) = false := by simp [hne, hforbidden]
  rw [toAscii?, hlabels, Option.bind_eq_bind, Option.bind_some, map_writeLabel hbasic,
    joinWith_splitWhere]
  exact if_neg (by rw [hrefused]; decide)

end Domain
end HttpGet
