/-
Records that are read from tables.

A record is read from a table key by key, and reading fails at the first entry that it cannot take.
Two facts about this fold carry all records: it succeeds if each entry is taken, and a field is what
the entry of its key makes of it.  The second needs that no key is set twice, which holds of every
document.  So what a record comes to can be told without any order, by looking its keys up.

An entry whose key a record does not know still has to be read, and this is where a number that
cannot be read is in the way.  A value of the expected type has only numbers that can be read, so
for the known keys nothing has to be added.
-/
import HttpGet.Config.File
import HttpGet.Proofs.Pointwise
import HttpGet.Proofs.Toml.Order

namespace HttpGet.Toml

/-! ### Values without their places -/

namespace Tree

mutual

/-- A value without the spans of its parts. -/
def bare : Tree → Tree
  | scalar _ value => scalar default value
  | array _ items => array default (bareItems items)
  | table _ entries => table default (bareEntries entries)
termination_by structural t => t

/-- The items of a list, without spans. -/
def bareItems : List Tree → List Tree
  | [] => []
  | t :: rest => bare t :: bareItems rest
termination_by structural ts => ts

/-- The entries of a table, without spans. -/
def bareEntries : List (String × Tree) → List (String × Tree)
  | [] => []
  | e :: rest => bareEntry e :: bareEntries rest
termination_by structural es => es

/-- An entry of a table, without spans. -/
def bareEntry : String × Tree → String × Tree
  | (key, t) => (key, bare t)
termination_by structural e => e

end

/-- A text, wherever it stands. -/
def IsText (t : Tree) (s : String) : Prop := t.bare = scalar default (.text s)

/-- A truth value, wherever it stands. -/
def IsFlag (t : Tree) (b : Bool) : Prop := t.bare = scalar default (.flag b)

/-- A flag that is set, to the truth value that stands somewhere. -/
def GivesFlag (t : Tree) (flag : Option Bool) : Prop := ∃ b, flag = some b ∧ t.IsFlag b

/-- A list of texts, wherever they stand. -/
def IsTexts (t : Tree) (texts : List String) : Prop :=
  t.bare = array default (texts.map fun s => scalar default (.text s))

theorem asText_eq_ok_iff {t : Tree} {s : String} : t.asText = .ok s ↔ t.IsText s := by
  unfold IsText
  cases t with
  | scalar span value => cases value <;> simp [asText, bare]
  | array span items => simp [asText, bare]
  | table span entries => simp [asText, bare]

theorem asFlag_eq_ok_iff {t : Tree} {b : Bool} : t.asFlag = .ok b ↔ t.IsFlag b := by
  unfold IsFlag
  cases t with
  | scalar span value => cases value <;> simp [asFlag, bare]
  | array span items => simp [asFlag, bare]
  | table span entries => simp [asFlag, bare]

theorem asTexts_eq_ok_iff {t : Tree} {texts : List String} :
    t.asTexts = .ok texts ↔ t.IsTexts texts := by
  unfold IsTexts
  cases t with
  | scalar span value => simp [asTexts, bare]
  | table span entries => simp [asTexts, bare]
  | array span items =>
      have hitems : List.Forall₂ (fun t s => t.asText = .ok s) items texts ↔
          bareItems items = texts.map fun s => scalar default (.text s) := by
        induction items generalizing texts with
        | nil => cases texts <;> simp [bareItems]
        | cons t items ih =>
            cases texts with
            | nil => simp [bareItems]
            | cons s texts =>
                rw [List.forall₂_cons, ih, asText_eq_ok_iff, IsText, bareItems, List.map_cons,
                  List.cons.injEq]
      rw [asTexts, mapM_eq_ok_iff, hitems, bare]
      simp

/-! ### Readable numbers -/

theorem readableItems_iff {items : List Tree} :
    readableItems items = true ↔ ∀ t ∈ items, t.readable = true := by
  induction items with
  | nil => simp [readableItems]
  | cons t items ih => rw [readableItems, Bool.and_eq_true, ih, List.forall_mem_cons]

theorem readableEntries_iff {entries : List (String × Tree)} :
    readableEntries entries = true ↔ ∀ e ∈ entries, e.2.readable = true := by
  induction entries with
  | nil => simp [readableEntries]
  | cons e entries ih =>
      rw [readableEntries, Bool.and_eq_true, ih, List.forall_mem_cons, readableEntry]

theorem readable_of_isText {t : Tree} {s : String} (h : t.IsText s) : t.readable = true := by
  rw [← asText_eq_ok_iff] at h
  cases t with
  | scalar span value => cases value <;> simp_all [asText, readable]
  | array span items => simp [asText] at h
  | table span entries => simp [asText] at h

theorem readable_of_isFlag {t : Tree} {b : Bool} (h : t.IsFlag b) : t.readable = true := by
  rw [← asFlag_eq_ok_iff] at h
  cases t with
  | scalar span value => cases value <;> simp_all [asFlag, readable]
  | array span items => simp [asFlag] at h
  | table span entries => simp [asFlag] at h

theorem readable_of_isTexts {t : Tree} {texts : List String} (h : t.IsTexts texts) :
    t.readable = true := by
  rw [← asTexts_eq_ok_iff] at h
  cases t with
  | scalar span value => simp [asTexts] at h
  | table span entries => simp [asTexts] at h
  | array span items =>
      rw [readable, readableItems_iff]
      refine forall_left_of_forall₂ ((mapM_eq_ok_iff.mp h).imp ?_)
      intro t s hs
      exact readable_of_isText (asText_eq_ok_iff.mp hs)

end Tree

/-- A value has another kind than was expected, and the fault tells both. -/
def Fault.IsKind (f : Fault) : Prop :=
  ∃ span found expected, f = .mismatch span (.kind found expected)

namespace Tree

theorem isKind_unexpected {t : Tree} (h : t.readable = true) (expected : String) :
    (t.unexpected expected).IsKind := by
  have hfound : t.found?.isSome = true := by
    cases t with
    | scalar span value =>
        cases value with
        | integer n => exact h
        | real x => cases x <;> simp_all [readable, found?]
        | _ => rfl
    | array span items => rfl
    | table span entries => rfl
  obtain ⟨found, hfound⟩ := Option.isSome_iff_exists.mp hfound
  exact ⟨t.span, found, expected, by rw [unexpected, hfound]⟩

theorem isKind_of_asText {t : Tree} (h : t.readable = true) {f : Fault}
    (hf : t.asText = .error f) : f.IsKind := by
  unfold asText at hf
  split at hf
  · exact absurd hf (by simp)
  · obtain rfl := Except.error.inj hf
    exact isKind_unexpected h _

theorem isKind_of_asFlag {t : Tree} (h : t.readable = true) {f : Fault}
    (hf : t.asFlag = .error f) : f.IsKind := by
  unfold asFlag at hf
  split at hf
  · exact absurd hf (by simp)
  · obtain rfl := Except.error.inj hf
    exact isKind_unexpected h _

theorem isKind_of_asTexts {t : Tree} (h : t.readable = true) {f : Fault}
    (hf : t.asTexts = .error f) : f.IsKind := by
  unfold asTexts at hf
  split at hf
  · rw [readable, readableItems_iff] at h
    obtain ⟨item, hitem, hf⟩ := exists_mem_of_mapM_error hf
    exact isKind_of_asText (h item hitem) hf
  · obtain rfl := Except.error.inj hf
    exact isKind_unexpected h _

end Tree

/-! ### Records -/

/-- What is made of a result is there if the result is. -/
theorem return_eq_ok_iff {ε α β : Type} {x : Except ε α} {make : α → β} {y : β} :
    (do return make (← x) : Except ε β) = .ok y ↔ ∃ a, x = .ok a ∧ y = make a := by
  cases x with
  | error e => simp [bind, Except.bind]
  | ok a => simp [bind, Except.bind, pure, Except.pure, eq_comm]

theorem error_of_return_eq_error {ε α β : Type} {x : Except ε α} {make : α → β} {e : ε}
    (h : (do return make (← x) : Except ε β) = .error e) : x = .error e := by
  cases x with
  | error e' => exact congrArg Except.error (Except.error.inj h)
  | ok a => exact absurd h (by simp [bind, Except.bind, pure, Except.pure])

section Records

variable {α β : Type} {known : String → Option (α → Tree → Except Fault α)}
  {start r : α} {entries : List (String × Tree)}

/-- What an entry makes of what was read before it. -/
def readEntry (known : String → Option (α → Tree → Except Fault α)) (a : α)
    (e : String × Tree) : Except Fault α :=
  match known e.1 with
  | some read => read a e.2
  | none => if e.2.readable = true then .ok a else .error .unreadableNumber

theorem readEntries_eq_foldlM :
    readEntries known start entries = entries.foldlM (readEntry known) start := by
  have hstep : ∀ a (e : String × Tree), readEntry known a e =
      match known e.1 with
      | some read => read a e.2
      | none => do e.2.skip; return a := by
    intro a e
    unfold readEntry Tree.skip
    by_cases hreadable : e.2.readable = true
    · simp only [if_pos hreadable]
      rfl
    · simp only [if_neg hreadable]
      rfl
  rw [funext fun a => funext (hstep a)]
  rfl

theorem readEntries_cons_eq_ok_iff {e : String × Tree} :
    readEntries known start (e :: entries) = .ok r ↔
      ∃ next, readEntry known start e = .ok next ∧ readEntries known next entries = .ok r := by
  simp only [readEntries_eq_foldlM, List.foldlM_cons]
  cases readEntry known start e with
  | error f => simp [bind, Except.bind]
  | ok next => simp [bind, Except.bind]

/-- Whether an entry is read does not depend on what was read before it. -/
def Uniform (known : String → Option (α → Tree → Except Fault α)) : Prop :=
  ∀ e a b, (∃ a', readEntry known a e = .ok a') → ∃ b', readEntry known b e = .ok b'

/-- A record is read if each entry is. -/
theorem exists_readEntries_iff (h : Uniform known) :
    (∃ r, readEntries known start entries = .ok r) ↔
      ∀ e ∈ entries, ∃ a, readEntry known start e = .ok a := by
  induction entries generalizing start with
  | nil => simp [readEntries, pure, Except.pure]
  | cons e entries ih =>
      simp only [readEntries_cons_eq_ok_iff, List.forall_mem_cons]
      constructor
      · rintro ⟨r, next, hnext, hr⟩
        refine ⟨⟨next, hnext⟩, ?_⟩
        intro f hf
        exact h f next start (ih.mp ⟨r, hr⟩ f hf)
      · rintro ⟨⟨next, hnext⟩, hentries⟩
        obtain ⟨r, hr⟩ := ih.mpr fun f hf => h f start next (hentries f hf)
        exact ⟨r, next, hnext, hr⟩

/-- What a key tells: what its value does, or what stands for its absence. -/
def Told (P : Tree → β → Prop) (absent : β) : Option Tree → β → Prop
  | none, x => x = absent
  | some t, x => P t x

/-- A field of a record is what the entry of its key makes of it, if no key is set twice and no
other entry changes it. -/
theorem told_of_readEntries (get : α → β) {P : Tree → β → Prop} {key : String}
    (hkey : ∀ a t a', readEntry known a (key, t) = .ok a' → P t (get a'))
    (hother : ∀ k a t a', k ≠ key → readEntry known a (k, t) = .ok a' → get a' = get a)
    (hentries : ByKey entries) (h : readEntries known start entries = .ok r) :
    Told P (get start) (entries.lookup key) (get r) := by
  induction entries generalizing start with
  | nil =>
      obtain rfl := Except.ok.inj h
      rfl
  | cons e entries ih =>
      obtain ⟨name, t⟩ := e
      obtain ⟨hlt, hrest⟩ := byKey_cons.mp hentries
      obtain ⟨next, hnext, hr⟩ := readEntries_cons_eq_ok_iff.mp h
      have htold := ih hrest hr
      rw [lookup_cons_eq]
      by_cases hname : key = name
      · have hnone : entries.lookup key = none := lookup_eq_none_of_lt (hname ▸ hlt)
        rw [hnone] at htold
        have hget : get r = get next := htold
        subst hname
        rw [if_pos rfl, hget]
        exact hkey start t next hnext
      · rw [if_neg hname, ← hother name start t next (Ne.symm hname) hnext]
        exact htold

/-- A fault of a record is one of its entries. -/
theorem exists_mem_of_readEntries_error {f : Fault}
    (h : readEntries known start entries = .error f) :
    ∃ e ∈ entries, ∃ a, readEntry known a e = .error f := by
  induction entries generalizing start with
  | nil => exact absurd h (by simp [readEntries, pure, Except.pure])
  | cons e entries ih =>
      rw [readEntries_eq_foldlM, List.foldlM_cons] at h
      cases hnext : readEntry known start e with
      | error f' =>
          rw [hnext] at h
          obtain rfl : f' = f := Except.error.inj h
          exact ⟨e, List.mem_cons_self, start, hnext⟩
      | ok next =>
          rw [hnext] at h
          obtain ⟨e', hmem, a, ha⟩ := ih (readEntries_eq_foldlM.trans h)
          exact ⟨e', List.mem_cons_of_mem e hmem, a, ha⟩

/-- An entry whose key a record does not know changes nothing, and is read if its numbers are. -/
theorem readEntry_eq_ok_iff {a a' : α} {e : String × Tree} (h : known e.1 = none) :
    readEntry known a e = .ok a' ↔ e.2.readable = true ∧ a' = a := by
  rw [readEntry, h]
  by_cases hreadable : e.2.readable = true
  · simp [hreadable, eq_comm]
  · simp [hreadable]

theorem Told.unique {P : Tree → β → Prop} (hP : ∀ t x y, P t x → P t y → x = y) {absent : β}
    {t? : Option Tree} {x y : β} (hx : Told P absent t? x) (hy : Told P absent t? y) : x = y := by
  cases t? with
  | none => exact Eq.trans hx (Eq.symm hy)
  | some t => exact hP t x y hx hy

theorem exists_told_iff {P : Tree → β → Prop} {absent : β} {t? : Option Tree} :
    (∃ x, Told P absent t? x) ↔ ∀ t, t? = some t → ∃ x, P t x := by
  cases t? with
  | none => simp [Told]
  | some t => simp [Told]

/-- A record with one field, whose value is read from the entry of a key. -/
def field (key : String) (read : Tree → Except Fault α) :
    String → Option (α → Tree → Except Fault α) :=
  fun k => if k = key then some fun _ t => read t else none

theorem readEntry_field {key : String} {read : Tree → Except Fault α} {a a' : α}
    {e : String × Tree} :
    readEntry (field key read) a e = .ok a' ↔
      if e.1 = key then read e.2 = .ok a' else e.2.readable = true ∧ a' = a := by
  by_cases h : e.1 = key
  · rw [if_pos h, readEntry, field, if_pos h]
  · rw [if_neg h, readEntry_eq_ok_iff (if_neg h)]

/-- A record with one field is read exactly if the numbers of all entries can be read and the
entry of its key, if there is one, gives the field. -/
theorem readEntries_field_iff {key : String} {read : Tree → Except Fault α}
    (hread : ∀ t x, read t = .ok x → t.readable = true) (hentries : ByKey entries) :
    readEntries (field key read) start entries = .ok r ↔
      (∀ e ∈ entries, e.2.readable = true) ∧
        Told (fun t x => read t = .ok x) start (entries.lookup key) r := by
  have huniform : Uniform (field key read) := by
    rintro e a b ⟨a', ha⟩
    rw [readEntry_field] at ha
    by_cases hkey : e.1 = key
    · rw [if_pos hkey] at ha
      exact ⟨a', readEntry_field.mpr (by rw [if_pos hkey]; exact ha)⟩
    · rw [if_neg hkey] at ha
      exact ⟨b, readEntry_field.mpr (by rw [if_neg hkey]; exact ⟨ha.1, rfl⟩)⟩
  have htold : ∀ {r}, readEntries (field key read) start entries = .ok r →
      Told (fun t x => read t = .ok x) start (entries.lookup key) r := by
    intro r hr
    refine told_of_readEntries id ?_ ?_ hentries hr
    · intro a t a' ha
      rw [readEntry_field, if_pos rfl] at ha
      exact ha
    · intro k a t a' hk ha
      rw [readEntry_field, if_neg hk] at ha
      exact ha.2
  constructor
  · intro hr
    refine ⟨?_, htold hr⟩
    intro e he
    obtain ⟨a, ha⟩ := (exists_readEntries_iff huniform).mp ⟨r, hr⟩ e he
    rw [readEntry_field] at ha
    by_cases hkey : e.1 = key
    · rw [if_pos hkey] at ha
      exact hread _ _ ha
    · rw [if_neg hkey] at ha
      exact ha.1
  · rintro ⟨hreadable, hr⟩
    obtain ⟨r', hr'⟩ : ∃ r', readEntries (field key read) start entries = .ok r' := by
      refine (exists_readEntries_iff huniform).mpr ?_
      intro e he
      by_cases hkey : e.1 = key
      · have hlookup : entries.lookup key = some e.2 :=
          (lookup_eq_some_iff_mem hentries.nodup).mpr (hkey ▸ he)
        rw [hlookup] at hr
        exact ⟨r, readEntry_field.mpr (by rw [if_pos hkey]; exact hr)⟩
      · exact ⟨start, readEntry_field.mpr (by rw [if_neg hkey]; exact ⟨hreadable e he, rfl⟩)⟩
    have hunique : r' = r :=
      Told.unique (fun _ _ _ hx hy => Except.ok.inj (hx.symm.trans hy)) (htold hr') hr
    rw [hr', hunique]

/-- A fault of a record with one field whose numbers can be read is one of its field. -/
theorem exists_of_readEntries_field_error {key : String} (read : Tree → Except Fault α) {f : Fault}
    (hreadable : ∀ e ∈ entries, e.2.readable = true)
    (h : readEntries (field key read) start entries = .error f) :
    ∃ t : Tree, t.readable = true ∧ read t = .error f := by
  obtain ⟨e, he, a, ha⟩ := exists_mem_of_readEntries_error h
  refine ⟨e.2, hreadable e he, ?_⟩
  unfold readEntry field at ha
  by_cases hkey : e.1 = key
  · rw [if_pos hkey] at ha
    exact ha
  · rw [if_neg hkey, if_pos (hreadable e he)] at ha
    exact absurd ha (by simp)

end Records

/-! ### Sections -/

section Sections

variable {span : Span} {entries : List (String × Tree)}

theorem asFetchSection_eq_ok_iff (h : ByKey entries) {s : FetchSection} :
    (Tree.table span entries).asFetchSection = .ok s ↔
      (∀ e ∈ entries, e.2.readable = true) ∧
        Told Tree.IsTexts [] (entries.lookup "uris") s.uris := by
  have hread : ∀ (t : Tree) (s : FetchSection),
      (do return FetchSection.mk (← t.asTexts) : Except Fault FetchSection) = .ok s ↔
        t.IsTexts s.uris := by
    intro t s
    obtain ⟨uris⟩ := s
    rw [return_eq_ok_iff]
    simp [Tree.asTexts_eq_ok_iff]
  have hrecord : (Tree.table span entries).asFetchSection =
      readEntries (field "uris" fun t => do return FetchSection.mk (← t.asTexts)) ⟨[]⟩ entries := rfl
  rw [hrecord, readEntries_field_iff (fun t s h => Tree.readable_of_isTexts ((hread t s).mp h)) h]
  refine and_congr_right fun _ => ?_
  cases entries.lookup "uris" with
  | none =>
      obtain ⟨uris⟩ := s
      show FetchSection.mk uris = ⟨[]⟩ ↔ uris = []
      rw [FetchSection.mk.injEq]
  | some t => exact hread t s

theorem isKind_of_asFetchSection (h : (Tree.table span entries).readable = true) {f : Fault}
    (hf : (Tree.table span entries).asFetchSection = .error f) : f.IsKind := by
  rw [Tree.readable, Tree.readableEntries_iff] at h
  obtain ⟨t, ht, hf⟩ := exists_of_readEntries_field_error
    (fun t => do return FetchSection.mk (← t.asTexts)) h hf
  exact Tree.isKind_of_asTexts ht (error_of_return_eq_error hf)

/-- A table is a section that says what to fetch exactly if its numbers can be read and its list of
URIs, if it has one, is a list of texts. -/
theorem exists_asFetchSection_iff (h : ByKey entries) :
    (∃ s, (Tree.table span entries).asFetchSection = .ok s) ↔
      (Tree.table span entries).readable = true ∧
        ∀ t, entries.lookup "uris" = some t → ∃ texts, t.IsTexts texts := by
  have htold : (∃ s : FetchSection, Told Tree.IsTexts [] (entries.lookup "uris") s.uris) ↔
      ∃ uris, Told Tree.IsTexts [] (entries.lookup "uris") uris :=
    ⟨fun ⟨s, hs⟩ => ⟨s.uris, hs⟩, fun ⟨uris, huris⟩ => ⟨⟨uris⟩, huris⟩⟩
  simp only [asFetchSection_eq_ok_iff h, exists_and_left, htold, exists_told_iff, Tree.readable,
    Tree.readableEntries_iff]

theorem asFlagSection_eq_ok_iff (h : ByKey entries) {name key : String} {flag : Option Bool} :
    (Tree.table span entries).asFlagSection name key = .ok flag ↔
      (∀ e ∈ entries, e.2.readable = true) ∧
        Told Tree.GivesFlag none (entries.lookup key) flag := by
  have hread : ∀ (t : Tree) (flag : Option Bool),
      (do return some (← t.asFlag) : Except Fault (Option Bool)) = .ok flag ↔
        t.GivesFlag flag := by
    intro t flag
    rw [return_eq_ok_iff]
    simp [Tree.GivesFlag, Tree.asFlag_eq_ok_iff, and_comm]
  have hrecord : (Tree.table span entries).asFlagSection name key =
      readEntries (field key fun t => do return some (← t.asFlag)) none entries := rfl
  have hreadable : ∀ (t : Tree) (flag : Option Bool),
      (do return some (← t.asFlag) : Except Fault (Option Bool)) = .ok flag → t.readable = true := by
    intro t flag h
    obtain ⟨b, -, hb⟩ := (hread t flag).mp h
    exact Tree.readable_of_isFlag hb
  rw [hrecord, readEntries_field_iff hreadable h]
  refine and_congr_right fun _ => ?_
  cases entries.lookup key with
  | none => exact Iff.rfl
  | some t => exact hread t flag

theorem isKind_of_asFlagSection (h : (Tree.table span entries).readable = true)
    {name key : String} {f : Fault}
    (hf : (Tree.table span entries).asFlagSection name key = .error f) : f.IsKind := by
  rw [Tree.readable, Tree.readableEntries_iff] at h
  obtain ⟨t, ht, hf⟩ := exists_of_readEntries_field_error
    (fun t => do return some (← t.asFlag)) h hf
  exact Tree.isKind_of_asFlag ht (error_of_return_eq_error hf)

/-- A table is a section with a flag exactly if its numbers can be read and its flag, if it has
one, is a truth value. -/
theorem exists_asFlagSection_iff (h : ByKey entries) (name : String) {key : String} :
    (∃ flag, (Tree.table span entries).asFlagSection name key = .ok flag) ↔
      (Tree.table span entries).readable = true ∧
        ∀ t, entries.lookup key = some t → ∃ b, t.IsFlag b := by
  have hgives : ∀ t : Tree, (∃ flag, t.GivesFlag flag) ↔ ∃ b, t.IsFlag b :=
    fun t => ⟨fun ⟨_, b, _, hb⟩ => ⟨b, hb⟩, fun ⟨b, hb⟩ => ⟨some b, b, rfl, hb⟩⟩
  simp only [asFlagSection_eq_ok_iff h, exists_and_left, exists_told_iff, hgives, Tree.readable,
    Tree.readableEntries_iff]

end Sections

end HttpGet.Toml
