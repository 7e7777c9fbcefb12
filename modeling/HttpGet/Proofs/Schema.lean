/-
The settings of a document.

A document may hold anything, and a configuration is three settings of it: a list of texts and two
flags, each under a key of a section of its own.  As long as sections are tables, loading succeeds
exactly if every number can be read and every setting that is there has its type, and the
configuration then holds these settings and nothing else of the document.

How the tables are written does not matter: what is proved is about the document that a text is
read as, and headers, dotted keys and inline tables lead to the same tables.
-/
import HttpGet.Proofs.Configuration
import HttpGet.Proofs.Toml.Records

namespace HttpGet

/-! ### Documents -/

namespace FileConfig

open Toml

/-- The value of a section's setting in a document, if the section is there and has it. -/
def setting? (root : List (String × Tree)) (kind : SectionKind) : Option Tree :=
  match root.lookup kind.name with
  | some (.table _ entries) => entries.lookup kind.key
  | _ => none

/-- Every section that a document has is a table. -/
def SectionsAreTables (root : List (String × Tree)) : Prop :=
  ∀ (kind : SectionKind) (t : Tree), root.lookup kind.name = some t →
    ∃ span entries, t = .table span entries

/-- The type of a section's setting: the URIs are a list of texts, the others are flags. -/
def SectionKind.Types : SectionKind → Tree → Prop
  | fetch, t => ∃ texts, t.IsTexts texts
  | output, t => ∃ b, t.IsFlag b
  | logging, t => ∃ b, t.IsFlag b

/-- Every setting that a document has is of its type. -/
def WellTyped (root : List (String × Tree)) : Prop :=
  ∀ (kind : SectionKind) (t : Tree), setting? root kind = some t → kind.Types t

/-- A configuration has the settings of a document and nothing else: no URIs, no flag and no
section where the document has none. -/
structure Holds (root : List (String × Tree)) (c : FileConfig) : Prop where
  uris : Told Tree.IsTexts [] (setting? root .fetch) c.fetch.uris
  output : ∃ pretty, Told Tree.GivesFlag none (setting? root .output) pretty ∧
    c.output = (root.lookup "output").map fun _ => ⟨pretty⟩
  logging : ∃ json, Told Tree.GivesFlag none (setting? root .logging) json ∧
    c.logging = (root.lookup "logging").map fun _ => ⟨json⟩

/-- Two documents have the same sections with the same settings, wherever these stand. -/
structure SameSettings (root root' : List (String × Tree)) : Prop where
  sections : ∀ kind : SectionKind,
    (root.lookup kind.name).isSome = (root'.lookup kind.name).isSome
  settings : ∀ kind : SectionKind,
    (setting? root kind).map Tree.bare = (setting? root' kind).map Tree.bare

variable {root : List (String × Tree)} {c c' : FileConfig}

/-- How an entry of a section changes a configuration. -/
def SectionKind.Sets : SectionKind → Tree → FileConfig → FileConfig → Prop
  | fetch, t, c, c' => ∃ s, t.asFetchSection = .ok s ∧ c' = { c with fetch := s }
  | output, t, c, c' => ∃ flag, t.asFlagSection "OutputConfig" "pretty" = .ok flag ∧
      c' = { c with output := some ⟨flag⟩ }
  | logging, t, c, c' => ∃ flag, t.asFlagSection "LoggingConfig" "json" = .ok flag ∧
      c' = { c with logging := some ⟨flag⟩ }

theorem readEntry_section (kind : SectionKind) (t : Tree) :
    readEntry readSection c (kind.name, t) = .ok c' ↔ kind.Sets t c c' := by
  cases kind with
  | fetch => exact return_eq_ok_iff
  | output => exact return_eq_ok_iff
  | logging => exact return_eq_ok_iff

theorem readSection_eq_none {name : String} (h : ∀ kind : SectionKind, name ≠ kind.name) :
    readSection name = none := by
  have hfetch : name ≠ "fetch" := h .fetch
  have houtput : name ≠ "output" := h .output
  have hlogging : name ≠ "logging" := h .logging
  rw [readSection, if_neg hfetch, if_neg houtput, if_neg hlogging]

theorem uniform_readSection : Uniform readSection := by
  rintro ⟨name, t⟩ a b ⟨a', ha⟩
  by_cases hname : ∃ kind : SectionKind, name = kind.name
  · obtain ⟨kind, rfl⟩ := hname
    rw [readEntry_section] at ha
    simp only [readEntry_section]
    cases kind with
    | fetch =>
        obtain ⟨s, hs, -⟩ := ha
        exact ⟨_, s, hs, rfl⟩
    | output =>
        obtain ⟨flag, hflag, -⟩ := ha
        exact ⟨_, flag, hflag, rfl⟩
    | logging =>
        obtain ⟨flag, hflag, -⟩ := ha
        exact ⟨_, flag, hflag, rfl⟩
  · have hnone : readSection name = none := readSection_eq_none (not_exists.mp hname)
    exact ⟨b, (readEntry_eq_ok_iff hnone).mpr ⟨((readEntry_eq_ok_iff hnone).mp ha).1, rfl⟩⟩

/-- A section changes no other section. -/
theorem SectionKind.Sets.only_eq {kind own : SectionKind} {t : Tree} (h : kind.Sets t c c')
    (hne : kind ≠ own) : c'.only [own.name] = c.only [own.name] := by
  cases kind with
  | fetch =>
      obtain ⟨s, -, rfl⟩ := h
      cases own with
      | fetch => exact absurd rfl hne
      | output => rfl
      | logging => rfl
  | output =>
      obtain ⟨flag, -, rfl⟩ := h
      cases own with
      | fetch => rfl
      | output => exact absurd rfl hne
      | logging => rfl
  | logging =>
      obtain ⟨flag, -, rfl⟩ := h
      cases own with
      | fetch => rfl
      | output => rfl
      | logging => exact absurd rfl hne

/-- A part of a configuration that belongs to one section is what the table of that section, if
there is one, makes of it. -/
theorem told_section {β : Type} (own : SectionKind) {get : FileConfig → β} {P : Tree → β → Prop}
    (hown : ∀ c, get (c.only [own.name]) = get c)
    (hsets : ∀ {t c c'}, own.Sets t c c' → P t (get c')) (hroot : ByKey root)
    (h : asFileConfig root = .ok c) : Told P (get default) (root.lookup own.name) (get c) := by
  refine told_of_readEntries get ?_ ?_ hroot h
  · intro a t a' ha
    exact hsets ((readEntry_section own t).mp ha)
  · intro name a t a' hname ha
    by_cases hkind : ∃ kind : SectionKind, name = kind.name
    · obtain ⟨kind, rfl⟩ := hkind
      have hne : kind ≠ own := by
        rintro rfl
        exact hname rfl
      rw [← hown a', ((readEntry_section kind t).mp ha).only_eq hne, hown]
    · rw [((readEntry_eq_ok_iff (readSection_eq_none (not_exists.mp hkind))).mp ha).2]

/-- The table of a section is taken exactly if its numbers can be read and its setting, if it has
one, is of its type. -/
theorem SectionKind.exists_sets_iff (kind : SectionKind) {span : Span}
    {entries : List (String × Tree)} (h : ByKey entries) (c : FileConfig) :
    (∃ c', kind.Sets (.table span entries) c c') ↔
      (Tree.table span entries).readable = true ∧
        ∀ t, entries.lookup kind.key = some t → kind.Types t := by
  cases kind with
  | fetch =>
      refine Iff.trans ?_ (exists_asFetchSection_iff h)
      exact ⟨fun ⟨_, s, hs, _⟩ => ⟨s, hs⟩, fun ⟨s, hs⟩ => ⟨_, s, hs, rfl⟩⟩
  | output =>
      refine Iff.trans ?_ (exists_asFlagSection_iff h "OutputConfig")
      exact ⟨fun ⟨_, flag, hflag, _⟩ => ⟨flag, hflag⟩, fun ⟨flag, hflag⟩ => ⟨_, flag, hflag, rfl⟩⟩
  | logging =>
      refine Iff.trans ?_ (exists_asFlagSection_iff h "LoggingConfig")
      exact ⟨fun ⟨_, flag, hflag, _⟩ => ⟨flag, hflag⟩, fun ⟨flag, hflag⟩ => ⟨_, flag, hflag, rfl⟩⟩

/-- A document in which every table lists its entries by increasing key, and sections are tables. -/
structure Regular (root : List (String × Tree)) : Prop where
  keys : ByKey root
  values : ∀ e ∈ root, e.2.Ordered
  sections : SectionsAreTables root

/-- A section that is there is a table, and has its setting if the table has an entry for it. -/
theorem Regular.exists_table (h : Regular root) (kind : SectionKind) {t : Tree}
    (ht : root.lookup kind.name = some t) :
    ∃ span entries, t = .table span entries ∧ ByKey entries ∧
      setting? root kind = entries.lookup kind.key := by
  obtain ⟨span, entries, rfl⟩ := h.sections kind t ht
  have hordered := h.values _ ((lookup_eq_some_iff_mem h.keys.nodup).mp ht)
  cases hordered with
  | table _ hkeys _ =>
      refine ⟨span, entries, rfl, hkeys, ?_⟩
      rw [setting?, ht]

/-- An entry of a document is taken exactly if its numbers can be read and, if it is a section, its
setting is of its type. -/
theorem Regular.exists_readEntry_iff (h : Regular root) {name : String} {t : Tree}
    (he : (name, t) ∈ root) :
    (∃ c', readEntry readSection c (name, t) = .ok c') ↔
      t.readable = true ∧
        ∀ kind : SectionKind, kind.name = name →
          ∀ v, setting? root kind = some v → kind.Types v := by
  by_cases hkind : ∃ kind : SectionKind, name = kind.name
  · obtain ⟨kind, rfl⟩ := hkind
    obtain ⟨span, entries, rfl, hkeys, hsetting⟩ :=
      h.exists_table kind ((lookup_eq_some_iff_mem h.keys.nodup).mpr he)
    have hsame : ∀ {kind' : SectionKind}, kind'.name = kind.name → kind' = kind := by
      intro kind' hname
      cases kind <;> cases kind' <;> first | rfl | exact absurd hname (by decide)
    simp only [readEntry_section, kind.exists_sets_iff hkeys, ← hsetting]
    refine and_congr_right fun _ => ⟨?_, fun htypes => htypes kind rfl⟩
    intro htypes kind' hname
    obtain rfl := hsame hname
    exact htypes
  · have hnone : readSection name = none := readSection_eq_none (not_exists.mp hkind)
    have hentry : ∀ c', readEntry readSection c (name, t) = .ok c' ↔
        t.readable = true ∧ c' = c := fun _ => readEntry_eq_ok_iff hnone
    simp only [hentry]
    constructor
    · rintro ⟨c', hreadable, -⟩
      exact ⟨hreadable, fun kind hname => absurd ⟨kind, hname.symm⟩ hkind⟩
    · rintro ⟨hreadable, -⟩
      exact ⟨c, hreadable, rfl⟩

/-- A document is loaded exactly if every number can be read and every setting has its type. -/
theorem Regular.exists_asFileConfig_iff (h : Regular root) :
    (∃ c, asFileConfig root = .ok c) ↔ Tree.readableEntries root = true ∧ WellTyped root := by
  rw [Tree.readableEntries_iff]
  refine (exists_readEntries_iff uniform_readSection).trans ?_
  constructor
  · intro hread
    have htaken : ∀ e ∈ root, e.2.readable = true ∧ ∀ kind : SectionKind, kind.name = e.1 →
        ∀ v, setting? root kind = some v → kind.Types v :=
      fun e he => (h.exists_readEntry_iff he).mp (hread e he)
    refine ⟨fun e he => (htaken e he).1, ?_⟩
    intro kind v hv
    cases ht : root.lookup kind.name with
    | none => simp [setting?, ht] at hv
    | some t =>
        have he : (kind.name, t) ∈ root := (lookup_eq_some_iff_mem h.keys.nodup).mp ht
        exact (htaken _ he).2 kind rfl v hv
  · rintro ⟨hreadable, htyped⟩ e he
    exact (h.exists_readEntry_iff he).mpr ⟨hreadable e he, fun kind _ => htyped kind⟩

/-- A flag section that is there is told by its flag. -/
theorem Regular.exists_flag (h : Regular root) {α : Type} {make : Option Bool → α}
    (kind : SectionKind) (name : String) {o : Option α}
    (ho : Told (fun t o => ∃ flag, t.asFlagSection name kind.key = .ok flag ∧ o = some (make flag))
      none (root.lookup kind.name) o) :
    ∃ flag, Told Tree.GivesFlag none (setting? root kind) flag ∧
      o = (root.lookup kind.name).map fun _ => make flag := by
  cases ht : root.lookup kind.name with
  | none =>
      rw [ht] at ho
      have hsetting : setting? root kind = none := by rw [setting?, ht]
      rw [hsetting]
      exact ⟨none, rfl, ho⟩
  | some t =>
      rw [ht] at ho
      obtain ⟨flag, hflag, rfl⟩ := ho
      obtain ⟨span, entries, rfl, hkeys, hsetting⟩ := h.exists_table kind ht
      rw [hsetting]
      exact ⟨flag, ((asFlagSection_eq_ok_iff hkeys).mp hflag).2, rfl⟩

/-- A configuration that is loaded has the settings of the document. -/
theorem Regular.holds (h : Regular root) (hc : asFileConfig root = .ok c) : Holds root c := by
  refine ⟨?_, ?_, ?_⟩
  · have hfetch :
        Told (fun t s => t.asFetchSection = .ok s) ⟨[]⟩ (root.lookup "fetch") c.fetch := by
      refine told_section .fetch (fun _ => rfl) ?_ h.keys hc
      rintro t c c' ⟨s, hs, rfl⟩
      exact hs
    cases ht : root.lookup "fetch" with
    | none =>
        have hsetting : setting? root .fetch = none := by rw [setting?, SectionKind.name, ht]
        rw [ht] at hfetch
        rw [hsetting]
        exact congrArg FetchSection.uris hfetch
    | some t =>
        rw [ht] at hfetch
        obtain ⟨span, entries, rfl, hkeys, hsetting⟩ := h.exists_table .fetch ht
        rw [hsetting]
        exact ((asFetchSection_eq_ok_iff hkeys).mp hfetch).2
  · refine h.exists_flag .output "OutputConfig" ?_
    refine told_section .output (fun _ => rfl) ?_ h.keys hc
    rintro t c c' ⟨flag, hflag, rfl⟩
    exact ⟨flag, hflag, rfl⟩
  · refine h.exists_flag .logging "LoggingConfig" ?_
    refine told_section .logging (fun _ => rfl) ?_ h.keys hc
    rintro t c c' ⟨flag, hflag, rfl⟩
    exact ⟨flag, hflag, rfl⟩

/-- A document has the settings of one configuration at most. -/
theorem Holds.unique (h : Holds root c) (h' : Holds root c') : c = c' := by
  obtain ⟨⟨uris⟩, output, logging⟩ := c
  obtain ⟨⟨uris'⟩, output', logging'⟩ := c'
  have hflag : ∀ (t : Tree) (x y : Option Bool), t.GivesFlag x → t.GivesFlag y → x = y := by
    rintro t x y ⟨b, rfl, hb⟩ ⟨b', rfl, hb'⟩
    rw [← Tree.asFlag_eq_ok_iff] at hb hb'
    exact congrArg some (Except.ok.inj (hb.symm.trans hb'))
  have huris : uris = uris' := by
    refine Told.unique ?_ h.uris h'.uris
    intro t texts texts' ht ht'
    rw [← Tree.asTexts_eq_ok_iff] at ht ht'
    exact Except.ok.inj (ht.symm.trans ht')
  obtain ⟨pretty, hpretty, houtput⟩ := h.output
  obtain ⟨pretty', hpretty', houtput'⟩ := h'.output
  obtain ⟨json, hjson, hlogging⟩ := h.logging
  obtain ⟨json', hjson', hlogging'⟩ := h'.logging
  obtain rfl := Told.unique hflag hpretty hpretty'
  obtain rfl := Told.unique hflag hjson hjson'
  have hsame : output = output' := houtput.trans houtput'.symm
  have hsame' : logging = logging' := hlogging.trans hlogging'.symm
  rw [huris, hsame, hsame']

theorem Holds.wellTyped (h : Holds root c) : WellTyped root := by
  have hflag : ∀ {t : Tree}, (∃ flag, t.GivesFlag flag) → ∃ b, t.IsFlag b := by
    rintro t ⟨_, b, -, hb⟩
    exact ⟨b, hb⟩
  intro kind v hv
  cases kind with
  | fetch => exact exists_told_iff.mp ⟨_, h.uris⟩ v hv
  | output =>
      obtain ⟨pretty, hpretty, -⟩ := h.output
      exact hflag (exists_told_iff.mp ⟨pretty, hpretty⟩ v hv)
  | logging =>
      obtain ⟨json, hjson, -⟩ := h.logging
      exact hflag (exists_told_iff.mp ⟨json, hjson⟩ v hv)

/-- **A document is loaded as the configuration that has its settings.** -/
theorem Regular.asFileConfig_eq_ok_iff (h : Regular root) :
    asFileConfig root = .ok c ↔ Tree.readableEntries root = true ∧ Holds root c := by
  constructor
  · intro hc
    exact ⟨(h.exists_asFileConfig_iff.mp ⟨c, hc⟩).1, h.holds hc⟩
  · rintro ⟨hreadable, hholds⟩
    obtain ⟨c', hc'⟩ := h.exists_asFileConfig_iff.mpr ⟨hreadable, hholds.wellTyped⟩
    rw [hc', (h.holds hc').unique hholds]

/-- If a document whose numbers can be read is not loaded, a value has the wrong kind. -/
theorem Regular.isKind (h : Regular root) (hreadable : Tree.readableEntries root = true)
    {f : Fault} (hf : asFileConfig root = .error f) : f.IsKind := by
  rw [Tree.readableEntries_iff] at hreadable
  obtain ⟨⟨name, t⟩, he, a, ha⟩ := exists_mem_of_readEntries_error hf
  have ht := hreadable _ he
  by_cases hkind : ∃ kind : SectionKind, name = kind.name
  · obtain ⟨kind, rfl⟩ := hkind
    obtain ⟨span, entries, rfl, -, -⟩ :=
      h.exists_table kind ((lookup_eq_some_iff_mem h.keys.nodup).mpr he)
    cases kind with
    | fetch => exact isKind_of_asFetchSection ht (error_of_return_eq_error ha)
    | output => exact isKind_of_asFlagSection ht (error_of_return_eq_error ha)
    | logging => exact isKind_of_asFlagSection ht (error_of_return_eq_error ha)
  · have hnone : readSection name = none := readSection_eq_none (not_exists.mp hkind)
    have hkept : readEntry readSection a (name, t) = .ok a :=
      (readEntry_eq_ok_iff hnone).mpr ⟨ht, rfl⟩
    exact absurd (hkept.symm.trans ha) (by simp)

/-- A setting tells the same in both documents. -/
theorem SameSettings.told_iff {root' : List (String × Tree)} (h : SameSettings root root')
    {β : Type} {P : Tree → β → Prop} (hP : ∀ t t' x, t.bare = t'.bare → (P t x ↔ P t' x))
    (kind : SectionKind) {absent x : β} :
    Told P absent (setting? root kind) x ↔ Told P absent (setting? root' kind) x := by
  have hsame := h.settings kind
  cases ht : setting? root kind with
  | none =>
      rw [ht, Option.map_none, eq_comm, Option.map_eq_none_iff] at hsame
      rw [hsame]
  | some t =>
      rw [ht, Option.map_some, eq_comm, Option.map_eq_some_iff] at hsame
      obtain ⟨t', ht', hbare⟩ := hsame
      rw [ht']
      exact hP t t' x hbare.symm

theorem SameSettings.symm {root' : List (String × Tree)} (h : SameSettings root root') :
    SameSettings root' root :=
  ⟨fun kind => (h.sections kind).symm, fun kind => (h.settings kind).symm⟩

/-- A document holds what one with the same settings holds. -/
theorem SameSettings.holds {root' : List (String × Tree)} (h : SameSettings root root')
    (hc : Holds root c) : Holds root' c := by
  have hmap : ∀ {α : Type} (x : α) (kind : SectionKind),
      ((root.lookup kind.name).map fun _ => x) = (root'.lookup kind.name).map fun _ => x := by
    intro α x kind
    have hsame := h.sections kind
    cases ht : root.lookup kind.name with
    | none =>
        rw [ht, Option.isSome_none, eq_comm, Option.isSome_eq_false_iff, Option.isNone_iff_eq_none]
          at hsame
        rw [hsame]
    | some t =>
        rw [ht, Option.isSome_some, eq_comm, Option.isSome_iff_exists] at hsame
        obtain ⟨t', ht'⟩ := hsame
        rw [ht']
        rfl
  have htexts : ∀ (t t' : Tree) (texts : List String), t.bare = t'.bare →
      (t.IsTexts texts ↔ t'.IsTexts texts) := by
    intro t t' texts hbare
    rw [Tree.IsTexts, Tree.IsTexts, hbare]
  have hflag : ∀ (t t' : Tree) (flag : Option Bool), t.bare = t'.bare →
      (t.GivesFlag flag ↔ t'.GivesFlag flag) := by
    intro t t' flag hbare
    simp only [Tree.GivesFlag, Tree.IsFlag, hbare]
  obtain ⟨pretty, hpretty, houtput⟩ := hc.output
  obtain ⟨json, hjson, hlogging⟩ := hc.logging
  exact ⟨(h.told_iff htexts .fetch).mp hc.uris,
    ⟨pretty, (h.told_iff hflag .output).mp hpretty, houtput.trans (hmap _ .output)⟩,
    ⟨json, (h.told_iff hflag .logging).mp hjson, hlogging.trans (hmap _ .logging)⟩⟩

/-! ### Texts -/

section Texts

variable {env : Environment} {text : String} (hform : document? (substitute env text) = some root)
include hform

theorem ofText_eq_of_document? : ofText env text =
    match asFileConfig root with
    | .ok c => .ok c
    | .error .unreadableNumber => .error (.toml .unreadableNumber)
    | .error (.mismatch span reason) =>
      .error (.toml (.mismatch (.ofSpan (substitute env text) span) reason)) := by
  simp only [ofText, ofToml, hform]
  cases asFileConfig root with
  | ok config => rfl
  | error f => cases f <;> rfl

theorem ofText_eq_ok_iff_of_document? : ofText env text = .ok c ↔ asFileConfig root = .ok c := by
  rw [ofText_eq_of_document? hform]
  cases asFileConfig root with
  | ok config => simp
  | error f => cases f <;> simp

/-- A document that is not loaded is an error that tells its fault. -/
theorem exists_fault_of_ofText {e : GetError} (h : ofText env text = .error e) :
    ∃ f reason, asFileConfig root = .error f ∧ e = .toml reason ∧
      ∀ span why, f = .mismatch span why → ∃ place, reason = .mismatch place why := by
  rw [ofText_eq_of_document? hform] at h
  cases hf : asFileConfig root with
  | ok config =>
      rw [hf] at h
      exact absurd h (by simp)
  | error f =>
      rw [hf] at h
      cases f with
      | unreadableNumber => exact ⟨_, _, rfl, (Except.error.inj h).symm, by simp⟩
      | mismatch span why =>
          refine ⟨_, _, rfl, (Except.error.inj h).symm, ?_⟩
          rintro span' why' heq
          obtain ⟨-, rfl⟩ := Fault.mismatch.inj heq
          exact ⟨_, rfl⟩

end Texts

/-- **A configuration is loaded from exactly its settings.**  If the sections of a document are
tables, its text is loaded exactly if every number can be read and every setting is of its type,
and what is loaded are the settings.  Otherwise it is an error of the document; unless a number
cannot be read, it tells which kind of value was found in the place of which.  So documents with
the same settings are loaded alike, whatever else there is in them. -/
theorem ofText_eq_ok_iff {env : Environment} {text : String}
    (hform : document? (substitute env text) = some root) (htables : SectionsAreTables root) :
    ((∃ c, ofText env text = .ok c) ↔ Tree.readableEntries root = true ∧ WellTyped root) ∧
    (∀ c, ofText env text = .ok c ↔ Tree.readableEntries root = true ∧ Holds root c) ∧
    (∀ e, ofText env text = .error e → ∃ reason, e = .toml reason ∧
      (Tree.readableEntries root = true →
        ∃ place found expected, reason = .mismatch place (.kind found expected))) ∧
    ∀ {env' : Environment} {text' : String} {root' : List (String × Tree)},
      document? (substitute env' text') = some root' → SectionsAreTables root' →
      Tree.readableEntries root = true → Tree.readableEntries root' = true →
      SameSettings root root' → ∀ c, ofText env text = .ok c ↔ ofText env' text' = .ok c := by
  have hroot : Regular root :=
    ⟨(ordered_of_document? hform).1, (ordered_of_document? hform).2, htables⟩
  refine ⟨?_, ?_, ?_, ?_⟩
  · simp only [ofText_eq_ok_iff_of_document? hform]
    exact hroot.exists_asFileConfig_iff
  · intro c
    rw [ofText_eq_ok_iff_of_document? hform, hroot.asFileConfig_eq_ok_iff]
  · intro e he
    obtain ⟨f, reason, hf, rfl, hreason⟩ := exists_fault_of_ofText hform he
    refine ⟨reason, rfl, ?_⟩
    intro hreadable
    obtain ⟨span, found, expected, rfl⟩ := hroot.isKind hreadable hf
    obtain ⟨place, rfl⟩ := hreason span _ rfl
    exact ⟨place, found, expected, rfl⟩
  · intro env' text' root' hform' htables' hreadable hreadable' hsame c
    have hroot' : Regular root' :=
      ⟨(ordered_of_document? hform').1, (ordered_of_document? hform').2, htables'⟩
    rw [ofText_eq_ok_iff_of_document? hform, ofText_eq_ok_iff_of_document? hform',
      hroot.asFileConfig_eq_ok_iff, hroot'.asFileConfig_eq_ok_iff, and_iff_right hreadable,
      and_iff_right hreadable']
    exact ⟨hsame.holds, hsame.symm.holds⟩

/-- A file with a section under a dotted key, one in an inline table and one on the way to another
table, among other things. -/
def crowded : String :=
  "x = 1979-05-27\nfetch.uris = [\"a\"]\noutput = \x7b q = 1, pretty = true \x7d\n[logging.more]\n"

/-- The entries of the crowded file. -/
def crowdedEntries : List (String × Tree) := [
  ("fetch", .table ⟨68, 63⟩ [("uris", .array ⟨55, 50⟩ [.scalar ⟨54, 51⟩ (.text "a")])]),
  ("logging", .table ⟨14, 7⟩ [("more", .table ⟨15, 1⟩ [])]),
  ("output", .table ⟨40, 16⟩ [("pretty", .scalar ⟨22, 18⟩ (.flag true)),
    ("q", .scalar ⟨34, 33⟩ (.integer (some 1)))]),
  ("x", .scalar ⟨79, 69⟩ .moment)]

/-- A file with the same settings under headers, and nothing else. -/
def tidy : String := "[fetch]\nuris = ['a']\n[output]\npretty = true\n[logging]\n"

/-- The entries of the tidy file. -/
def tidyEntries : List (String × Tree) := [
  ("fetch", .table ⟨54, 47⟩ [("uris", .array ⟨39, 34⟩ [.scalar ⟨38, 35⟩ (.text "a")])]),
  ("logging", .table ⟨10, 1⟩ []),
  ("output", .table ⟨33, 25⟩ [("pretty", .scalar ⟨15, 11⟩ (.flag true))])]

/-- The crowded and the tidy file are loaded alike. -/
theorem ofText_eq_ok_iff_crowded :
    document? (substitute (fun _ => none) crowded) = some crowdedEntries ∧
    SectionsAreTables crowdedEntries ∧ Tree.readableEntries crowdedEntries = true ∧
    WellTyped crowdedEntries ∧ SameSettings crowdedEntries tidyEntries ∧
    ofText (fun _ => none) crowded = .ok ⟨⟨["a"]⟩, some ⟨some true⟩, some ⟨none⟩⟩ ∧
    ofText (fun _ => none) tidy = .ok ⟨⟨["a"]⟩, some ⟨some true⟩, some ⟨none⟩⟩ := by
  have hform : document? (substitute (fun _ => none) crowded) = some crowdedEntries := by
    decide +kernel
  have hform' : document? (substitute (fun _ => none) tidy) = some tidyEntries := by
    decide +kernel
  have htables : SectionsAreTables crowdedEntries := by
    intro kind t ht
    cases kind <;> exact ⟨_, _, (Option.some.inj ht).symm⟩
  have htables' : SectionsAreTables tidyEntries := by
    intro kind t ht
    cases kind <;> exact ⟨_, _, (Option.some.inj ht).symm⟩
  have hsame : SameSettings crowdedEntries tidyEntries := by
    refine ⟨?_, ?_⟩ <;> intro kind <;> cases kind <;> rfl
  have hholds : Holds crowdedEntries ⟨⟨["a"]⟩, some ⟨some true⟩, some ⟨none⟩⟩ :=
    ⟨rfl, ⟨some true, ⟨true, rfl, rfl⟩, rfl⟩, ⟨none, rfl, rfl⟩⟩
  obtain ⟨-, hok, -, hlike⟩ := ofText_eq_ok_iff hform htables
  have hloaded := (hok _).mpr ⟨rfl, hholds⟩
  exact ⟨hform, htables, rfl, hholds.wellTyped, hsame, hloaded,
    (hlike hform' htables' rfl rfl hsame _).mp hloaded⟩

/-- A number too large for 64 bits keeps a file from being loaded, even under a key that no section
knows: its sections are tables, and its settings have their types. -/
theorem not_forall_wellTyped_ofText :
    ¬ ∀ (env : Environment) (text : String) (root : List (String × Tree)),
      document? (substitute env text) = some root → SectionsAreTables root → WellTyped root →
        ∃ c, ofText env text = .ok c := by
  intro h
  have hform : document? (substitute (fun _ => none) "x = 1e400") =
      some [("x", .scalar ⟨5, 0⟩ (.real .tooLarge))] := by
    decide +kernel
  have hnone : ∀ kind : SectionKind,
      [("x", Tree.scalar ⟨5, 0⟩ (.real .tooLarge))].lookup kind.name = none := by
    intro kind
    cases kind <;> rfl
  have htables : SectionsAreTables [("x", .scalar ⟨5, 0⟩ (.real .tooLarge))] := by
    intro kind t ht
    rw [hnone] at ht
    exact absurd ht (by simp)
  have htyped : WellTyped [("x", .scalar ⟨5, 0⟩ (.real .tooLarge))] := by
    intro kind t ht
    rw [setting?, hnone] at ht
    exact absurd ht (by simp)
  have hunreadable : asFileConfig [("x", .scalar ⟨5, 0⟩ (.real .tooLarge))] =
      .error .unreadableNumber := rfl
  obtain ⟨c, hc⟩ := h _ _ _ hform htables htyped
  rw [ofText_eq_ok_iff_of_document? hform, hunreadable] at hc
  exact absurd hc (by simp)

end FileConfig
end HttpGet
