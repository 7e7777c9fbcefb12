/-
The first blank URI.

Settings and files are looked at alike: the URIs are tried in order, and the first that is blank
is the error, with its place and as it is written.  They differ in what they call the place, and
in that settings have to have a URI at all.  So settings that take their URIs from a file are
valid exactly if the file is, unless the file has none.

A text is blank if nothing is left of it without the blank characters at its ends.
-/
import HttpGet.Config.Settings
import Mathlib.Data.List.TakeWhile

namespace HttpGet

/-! ### Blank texts -/

/-- Without the blank characters at its ends nothing is left of a text that has no others. -/
theorem trimBlank_eq_nil_iff {s : List Char} :
    trimBlank s = [] ↔ ∀ c ∈ s, isBlank c = true := by
  rw [trimBlank, List.reverse_eq_nil_iff, List.dropWhile_eq_nil_iff]
  constructor
  · intro h
    cases hrest : s.dropWhile isBlank with
    | nil => exact List.dropWhile_eq_nil_iff.mp hrest
    | cons c rest =>
        have hblank := h c (by rw [hrest]; simp)
        have hnot := List.head?_dropWhile_not isBlank s
        rw [hrest] at hnot
        simp [hblank] at hnot
  · intro h c hc
    exact h c ((List.dropWhile_sublist isBlank).mem (List.mem_reverse.mp hc))

theorem isBlankText_iff {text : String} :
    isBlankText text = true ↔ ∀ c ∈ text.toList, isBlank c = true := by
  rw [isBlankText, List.all_eq_true]

/-- Whether a text has a character that is not blank. -/
def HasText (text : String) : Prop := ∃ c ∈ text.toList, isBlank c = false

theorem not_hasText_iff {text : String} :
    ¬ HasText text ↔ ∀ c ∈ text.toList, isBlank c = true := by
  simp [HasText]

theorem hasText_iff {text : String} :
    HasText text ↔ ¬ ∀ c ∈ text.toList, isBlank c = true := by
  rw [← not_hasText_iff, Classical.not_not]

/-- The error of a value that is blank. -/
def blankError (field value : String) : GetError :=
  .invalidValue field value "Value cannot be empty or whitespace-only"

theorem requireText_of_not_hasText {value : String} (h : ¬ HasText value) (field : String) :
    requireText field value = .error (blankError field value) := by
  rw [requireText, if_pos (isBlankText_iff.mpr (not_hasText_iff.mp h))]
  rfl

theorem requireText_eq_ok_iff (field : String) {value : String} :
    requireText field value = .ok () ↔ HasText value := by
  rw [hasText_iff, ← isBlankText_iff, requireText]
  by_cases h : isBlankText value = true
  · simp [h]
  · simp [h]

/-! ### The first that is blank -/

/-- The URI at a place is blank, and none before it is. -/
structure FirstBlank (uris : List String) (i : Nat) (uri : String) : Prop where
  here : uris[i]? = some uri
  blank : ¬ HasText uri
  before : ∀ earlier ∈ uris.take i, HasText earlier

namespace FirstBlank

variable {uri first : String} {uris : List String} {i : Nat}

theorem cons_of_not_hasText (h : ¬ HasText first) :
    FirstBlank (first :: uris) i uri ↔ i = 0 ∧ uri = first := by
  constructor
  · intro hfirst
    cases i with
    | zero => exact ⟨rfl, (Option.some.inj hfirst.here).symm⟩
    | succ i => exact absurd (hfirst.before first (by simp)) h
  · rintro ⟨rfl, rfl⟩
    exact ⟨rfl, h, by simp⟩

theorem cons_of_hasText (h : HasText first) :
    FirstBlank (first :: uris) i uri ↔ ∃ j, i = j + 1 ∧ FirstBlank uris j uri := by
  constructor
  · intro hfirst
    cases i with
    | zero => exact absurd (Option.some.inj hfirst.here ▸ h) hfirst.blank
    | succ i =>
        refine ⟨i, rfl, hfirst.here, hfirst.blank, ?_⟩
        intro earlier hmem
        exact hfirst.before earlier (List.mem_cons_of_mem _ hmem)
  · rintro ⟨j, rfl, hrest⟩
    refine ⟨hrest.here, hrest.blank, ?_⟩
    rw [List.take_succ_cons, List.forall_mem_cons]
    exact ⟨h, hrest.before⟩

end FirstBlank

/-- The name of the place of a URI. -/
def place (field : String) (i : Nat) : String := field ++ "[" ++ toString i ++ "]"

/-- The URIs that are looked at from `i` on fail with the first blank one. -/
theorem requireTexts_eq_error_iff {field : String} {i : Nat} {uris : List String} {e : GetError} :
    requireTexts field i uris = .error e ↔
      ∃ j uri, FirstBlank uris j uri ∧ e = blankError (place field (i + j)) uri := by
  induction uris generalizing i with
  | nil =>
      rw [requireTexts]
      constructor
      · intro h
        exact absurd h (by simp)
      · rintro ⟨j, uri, h, -⟩
        exact absurd h.here (by simp)
  | cons first uris ih =>
      rw [requireTexts]
      by_cases h : HasText first
      · rw [(requireText_eq_ok_iff _).mpr h]
        dsimp only
        rw [ih]
        constructor
        · rintro ⟨j, uri, hrest, rfl⟩
          refine ⟨j + 1, uri, (FirstBlank.cons_of_hasText h).mpr ⟨j, rfl, hrest⟩, ?_⟩
          rw [Nat.add_right_comm, Nat.add_assoc]
        · rintro ⟨_, uri, hfirst, rfl⟩
          obtain ⟨j, rfl, hrest⟩ := (FirstBlank.cons_of_hasText h).mp hfirst
          refine ⟨j, uri, hrest, ?_⟩
          rw [Nat.add_right_comm, Nat.add_assoc]
      · rw [requireText_of_not_hasText h]
        simp only [FirstBlank.cons_of_not_hasText h, Except.error.injEq]
        constructor
        · rintro rfl
          exact ⟨0, first, ⟨rfl, rfl⟩, rfl⟩
        · rintro ⟨_, _, ⟨rfl, rfl⟩, rfl⟩
          rfl

/-- URIs pass if each of them has a text. -/
theorem requireTexts_eq_ok_iff {field : String} {i : Nat} {uris : List String} :
    requireTexts field i uris = .ok () ↔ ∀ uri ∈ uris, HasText uri := by
  induction uris generalizing i with
  | nil => simp [requireTexts]
  | cons first uris ih =>
      rw [requireTexts, List.forall_mem_cons]
      by_cases h : HasText first
      · rw [(requireText_eq_ok_iff _).mpr h]
        simp [h, ih]
      · rw [requireText_of_not_hasText h]
        simp [h]

/-- URIs that are looked at all have a text, or one of them is the first blank one. -/
theorem forall_hasText_or_exists_firstBlank (uris : List String) :
    (∀ uri ∈ uris, HasText uri) ∨ ∃ i uri, FirstBlank uris i uri := by
  cases h : requireTexts "" 0 uris with
  | ok u => exact .inl (requireTexts_eq_ok_iff.mp h)
  | error e =>
      obtain ⟨i, uri, hfirst, -⟩ := requireTexts_eq_error_iff.mp h
      exact .inr ⟨i, uri, hfirst⟩

/-! ### Settings and files -/

namespace Settings

/-- The error of settings without a URI. -/
def withoutUri : GetError :=
  .configuration "No URI given on the command line or in fetch.uris"

variable {s : Settings} {file : FileConfig} {e : GetError}

theorem validate_eq_error_iff :
    s.validate = .error e ↔ (s.uris = [] ∧ e = withoutUri) ∨
      ∃ i uri, FirstBlank s.uris i uri ∧ e = blankError (place "uris" i) uri := by
  rw [validate]
  by_cases h : s.uris = []
  · rw [if_pos (by simp [h])]
    constructor
    · intro he
      exact .inl ⟨h, (Except.error.inj he).symm⟩
    · rintro (⟨-, rfl⟩ | ⟨i, uri, hfirst, -⟩)
      · rfl
      · exact absurd hfirst.here (by simp [h])
  · rw [if_neg (by simp [h]), requireTexts_eq_error_iff]
    simp only [h, false_and, false_or, Nat.zero_add]

/-- Settings that are not valid have the exit code of a blank URI, and of none. -/
theorem exitCode_of_validate (h : s.validate = .error e) : e.exitCode = 2 := by
  rcases validate_eq_error_iff.mp h with ⟨-, rfl⟩ | ⟨i, uri, -, rfl⟩
  · rfl
  · rfl

theorem validate_eq_ok_iff_hasText :
    s.validate = .ok () ↔ s.uris ≠ [] ∧ ∀ uri ∈ s.uris, HasText uri := by
  rw [validate]
  by_cases h : s.uris = []
  · simp [h]
  · rw [if_neg (by simpa using h), requireTexts_eq_ok_iff]
    simp [h]

theorem validate_eq_ok_iff :
    s.validate = .ok () ↔
      s.uris ≠ [] ∧ ∀ uri ∈ s.uris, ¬ ∀ c ∈ uri.toList, isBlank c = true := by
  rw [validate_eq_ok_iff_hasText]
  simp only [hasText_iff]

/-- Whether settings are valid depends on their URIs only. -/
theorem validate_congr {s s' : Settings} (h : s.uris = s'.uris) : s.validate = s'.validate := by
  rw [validate, validate, h]

end Settings

namespace FileConfig

variable {file : FileConfig} {e : GetError}

theorem validate_eq_error_iff :
    file.validate = .error e ↔ ∃ i uri, FirstBlank file.fetch.uris i uri ∧
      e = blankError (place "fetch.uris" i) uri := by
  rw [validate, requireTexts_eq_error_iff]
  simp only [Nat.zero_add]

theorem validate_eq_ok_iff :
    file.validate = .ok () ↔ ∀ uri ∈ file.fetch.uris, HasText uri := by
  rw [validate, requireTexts_eq_ok_iff]

end FileConfig

namespace Settings

/-- Settings and a file with the same URIs are both valid, or have the same first blank one. -/
theorem validate_alike {s : Settings} {file : FileConfig} (h : s.uris = file.fetch.uris)
    (hne : s.uris ≠ []) :
    (s.validate = .ok () ∧ file.validate = .ok ()) ∨
    ∃ i uri, FirstBlank s.uris i uri ∧
      s.validate = .error (blankError (place "uris" i) uri) ∧
      file.validate = .error (blankError (place "fetch.uris" i) uri) := by
  rcases forall_hasText_or_exists_firstBlank s.uris with hall | ⟨i, uri, hfirst⟩
  · exact .inl ⟨validate_eq_ok_iff_hasText.mpr ⟨hne, hall⟩,
      FileConfig.validate_eq_ok_iff.mpr (h ▸ hall)⟩
  · exact .inr ⟨i, uri, hfirst, validate_eq_error_iff.mpr (.inr ⟨i, uri, hfirst, rfl⟩),
      FileConfig.validate_eq_error_iff.mpr ⟨i, uri, h ▸ hfirst, rfl⟩⟩

theorem uris_merge_of_eq_nil {s : Settings} (h : s.uris = []) (file : FileConfig) :
    (s.merge file).uris = file.fetch.uris := by
  rw [merge, h]
  rfl

/-- **Settings and files fail with the first blank URI.**  A value is blank if nothing is left of
it without the blank characters at its ends.  Settings are valid exactly if they have a URI and
every URI has a character that is not blank; they fail for want of a URI, or with the first
blank one.  A file is looked at in the same way, but may be without a URI.  So with the same URIs
they are valid alike, or fail at the same place; and settings that take their URIs from a file
are valid exactly if the file is, unless it has none to take. -/
theorem validate_first_blank :
    (∀ field value : String,
      requireText field value = .ok () ↔ trimBlank value.toList ≠ []) ∧
    (∀ s : Settings,
      (s.validate = .ok () ↔ s.uris ≠ [] ∧ ∀ uri ∈ s.uris, HasText uri) ∧
      ∀ e, s.validate = .error e ↔ (s.uris = [] ∧ e = withoutUri) ∨
        ∃ i uri, FirstBlank s.uris i uri ∧ e = blankError (place "uris" i) uri) ∧
    (∀ file : FileConfig,
      (file.validate = .ok () ↔ ∀ uri ∈ file.fetch.uris, HasText uri) ∧
      ∀ e, file.validate = .error e ↔
        ∃ i uri, FirstBlank file.fetch.uris i uri ∧ e = blankError (place "fetch.uris" i) uri) ∧
    (∀ (s : Settings) (file : FileConfig), s.uris = file.fetch.uris → s.uris ≠ [] →
      (s.validate = .ok () ∧ file.validate = .ok ()) ∨
      ∃ i uri, FirstBlank s.uris i uri ∧
        s.validate = .error (blankError (place "uris" i) uri) ∧
        file.validate = .error (blankError (place "fetch.uris" i) uri)) ∧
    ∀ (s : Settings) (file : FileConfig), s.uris = [] →
      (file.fetch.uris ≠ [] → ((s.merge file).validate = .ok () ↔ file.validate = .ok ())) ∧
      (file.fetch.uris = [] →
        (s.merge file).validate = .error withoutUri ∧ file.validate = .ok ()) := by
  refine ⟨?_, fun s => ⟨validate_eq_ok_iff_hasText, fun e => validate_eq_error_iff⟩,
    fun file => ⟨FileConfig.validate_eq_ok_iff, fun e => FileConfig.validate_eq_error_iff⟩,
    fun s file h hne => validate_alike h hne, ?_⟩
  · intro field value
    rw [requireText_eq_ok_iff, hasText_iff, ne_eq, trimBlank_eq_nil_iff]
  · intro s file h
    have huris := uris_merge_of_eq_nil h file
    constructor
    · intro hne
      rw [validate_eq_ok_iff_hasText, FileConfig.validate_eq_ok_iff, huris]
      exact and_iff_right hne
    · intro hnil
      refine ⟨validate_eq_error_iff.mpr (.inl ⟨huris.trans hnil, rfl⟩), ?_⟩
      rw [FileConfig.validate_eq_ok_iff, hnil]
      simp

/-- Of a blank URI between others and an empty one after it the first is what is wrong. -/
theorem validate_first_blank_between :
    Settings.validate ⟨["http://a/", "\u2003\t", ""], none, false, false, false⟩ =
      .error (.invalidValue "uris[1]" "\u2003\t" "Value cannot be empty or whitespace-only") ∧
    FileConfig.validate ⟨⟨["http://a/", "\u2003\t", ""]⟩, none, none⟩ =
      .error (.invalidValue "fetch.uris[1]" "\u2003\t"
        "Value cannot be empty or whitespace-only") ∧
    (Settings.validate ⟨["\u200b"], none, false, false, false⟩ = .ok () ∧
      FileConfig.validate ⟨⟨["\u200b"]⟩, none, none⟩ = .ok ()) ∧
    (Settings.merge ⟨[], none, false, false, false⟩ ⟨⟨["-"]⟩, none, none⟩).validate = .ok () ∧
    (Settings.merge ⟨[], none, false, false, false⟩ default).validate = .error withoutUri := by
  have hblank : ¬ HasText "\u2003\t" := not_hasText_iff.mpr (isBlankText_iff.mp (by decide +kernel))
  have hfirst : FirstBlank ["http://a/", "\u2003\t", ""] 1 "\u2003\t" := by
    refine ⟨rfl, hblank, ?_⟩
    simpa using ⟨'h', by decide, by decide⟩
  obtain ⟨-, hsettings, hfile, halike, hmerge⟩ := validate_first_blank
  refine ⟨((hsettings _).2 _).mpr (.inr ⟨1, _, hfirst, rfl⟩),
    ((hfile _).2 _).mpr ⟨1, _, hfirst, rfl⟩, ?_, ?_, ?_⟩
  · rcases halike ⟨["\u200b"], none, false, false, false⟩ ⟨⟨["\u200b"]⟩, none, none⟩ rfl (by simp)
      with hok | ⟨i, uri, h, -⟩
    · exact hok
    · obtain rfl := List.mem_singleton.mp (List.mem_of_getElem? h.here)
      exact absurd ⟨'\u200b', by decide, by decide⟩ h.blank
  · exact ((hmerge ⟨[], none, false, false, false⟩ ⟨⟨["-"]⟩, none, none⟩ rfl).1 (by simp)).mpr
      ((hfile _).1.mpr (by simpa using ⟨'-', by decide, by decide⟩))
  · exact ((hmerge ⟨[], none, false, false, false⟩ default rfl).2 rfl).1

end Settings

end HttpGet
