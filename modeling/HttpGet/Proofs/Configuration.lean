/-
Configurations that are written and loaded.

Every configuration can be written as a TOML text, with its sections in any order, under
headers or as inline tables.  The text has no dollar sign, so it is the same under every
environment, and what is loaded is the configuration: a section that is absent, one without
its flag and one with it stay apart.

A list of URIs may also be written with placeholders in it.  As long as each placeholder that
is opened in a URI is closed there, and neither URIs nor values need escapes, filling the text
fills each URI by itself, and loading gives the filled URIs.
-/
import HttpGet.Config.Resolution
import HttpGet.Proofs.Substitution
import HttpGet.Proofs.Toml.Sections

namespace HttpGet

/-! ### The settings of a document -/

namespace Toml

/-- How an entry of the root table changes a configuration, if its key is that of a section. -/
def readSection (key : String) : Option (FileConfig → Tree → Except Fault FileConfig) :=
  if key = "fetch" then some fun c t => do return { c with fetch := ← t.asFetchSection }
  else if key = "output" then some fun c t => do
    return { c with output := some ⟨← t.asFlagSection "OutputConfig" "pretty"⟩ }
  else if key = "logging" then some fun c t => do
    return { c with logging := some ⟨← t.asFlagSection "LoggingConfig" "json"⟩ }
  else none

theorem asFileConfig_eq (root : List (String × Tree)) :
    asFileConfig root = readEntries readSection default root := rfl

/-- An entry whose key is known changes what was read so far. -/
theorem readEntries_cons {α : Type} {known : String → Option (α → Tree → Except Fault α)}
    {start next : α} {e : String × Tree} {read : α → Tree → Except Fault α}
    (hknown : known e.1 = some read) (hread : read start e.2 = .ok next)
    (entries : List (String × Tree)) :
    readEntries known start (e :: entries) = readEntries known next entries := by
  rw [readEntries, List.foldlM_cons]
  simp only [hknown, hread]
  rfl

theorem asFetchSection_uris {v : Tree} {uris : List String} (hv : v.asTexts = .ok uris)
    (span : Span) : (Tree.table span [("uris", v)]).asFetchSection = .ok ⟨uris⟩ := by
  rw [Tree.asFetchSection, readEntries_cons rfl (by rw [hv]; rfl)]
  rfl

/-- A table that holds the list of URIs is the section that says what to fetch. -/
theorem asFetchSection_of_holds {tree : Tree} {value : List Char} {uris : List String}
    (h : HoldsSetting (some ⟨"uris", value⟩) (fun t => t.asTexts = .ok uris) tree) :
    tree.asFetchSection = .ok ⟨uris⟩ := by
  obtain ⟨span, entries, rfl, v, hv, rfl⟩ := h
  exact asFetchSection_uris hv span

/-- A table that holds a flag, or nothing, is a section with that flag. -/
theorem asFlagSection_of_holds {tree : Tree} {name key : String} {flag : Option Bool}
    (h : HoldsSetting ((flag.map writeFlag).map (⟨key, ·⟩))
      (fun t => ∃ b, flag = some b ∧ t.asFlag = .ok b) tree) :
    tree.asFlagSection name key = .ok flag := by
  obtain ⟨span, entries, rfl, h⟩ := h
  cases flag with
  | none =>
      obtain rfl : entries = [] := h
      rfl
  | some b =>
      simp only [Option.map_some, Option.some.injEq] at h
      obtain ⟨v, ⟨b', rfl, hv⟩, rfl⟩ := h
      rw [Tree.asFlagSection, readEntries_cons (if_pos rfl) (by rw [hv]; rfl)]
      rfl

end Toml

/-! ### Written configurations -/

namespace FileConfig

/-- The sections of a configuration file. -/
inductive SectionKind where
  | fetch
  | output
  | logging
deriving DecidableEq

/-- The name of a section. -/
def SectionKind.name : SectionKind → String
  | fetch => "fetch"
  | output => "output"
  | logging => "logging"

/-- The key of a section's setting. -/
def SectionKind.key : SectionKind → String
  | fetch => "uris"
  | output => "pretty"
  | logging => "json"

theorem SectionKind.isBareKey_name (kind : SectionKind) : Toml.IsBareKey kind.name := by
  cases kind <;> exact Toml.isBareKey_of_all (by decide) (by decide)

theorem SectionKind.isBareKey_key (kind : SectionKind) : Toml.IsBareKey kind.key := by
  cases kind <;> exact Toml.isBareKey_of_all (by decide) (by decide)

/-- Whether a configuration has a section. -/
def has (c : FileConfig) : SectionKind → Bool
  | .fetch => true
  | .output => c.output.isSome
  | .logging => c.logging.isSome

/-- The written value of a section's setting, if it has one. -/
def value (letters : Toml.DigitCase) (c : FileConfig) : SectionKind → Option (List Char)
  | .fetch => some (Toml.writeTexts (Toml.escapeChar letters) c.fetch.uris)
  | .output => (c.output.bind (·.pretty)).map Toml.writeFlag
  | .logging => (c.logging.bind (·.json)).map Toml.writeFlag

/-- A section of a configuration. -/
def written (letters : Toml.DigitCase) (c : FileConfig) (kind : SectionKind) : Toml.Section :=
  ⟨kind.name, (c.value letters kind).map (⟨kind.key, ·⟩)⟩

/-- How a configuration is written: the form of its sections, their order, and the letters of
hexadecimal digits in escapes. -/
structure Style where
  form : Toml.SectionForm
  order : List SectionKind
  complete : order.Perm [.fetch, .output, .logging]
  letters : Toml.DigitCase

/-- The sections that a configuration has, in the order of a style. -/
def Style.sections (style : Style) (c : FileConfig) : List SectionKind := style.order.filter c.has

/-- The text of a configuration. -/
def Style.write (style : Style) (c : FileConfig) : String :=
  String.ofList (Toml.writeSections style.form (c.written style.letters) (style.sections c))

/-- What the value of a section's setting is read as. -/
def Gives (c : FileConfig) : SectionKind → Toml.Tree → Prop
  | .fetch, t => t.asTexts = .ok c.fetch.uris
  | .output, t => ∃ b, c.output.bind (·.pretty) = some b ∧ t.asFlag = .ok b
  | .logging, t => ∃ b, c.logging.bind (·.json) = some b ∧ t.asFlag = .ok b

/-- The settings of a configuration whose sections have these names. -/
def only (c : FileConfig) (names : List String) : FileConfig where
  fetch := if "fetch" ∈ names then c.fetch else ⟨[]⟩
  output := if "output" ∈ names then c.output else none
  logging := if "logging" ∈ names then c.logging else none

variable {letters : Toml.DigitCase} {c : FileConfig}

theorem only_nil : c.only [] = default := rfl

theorem only_of_has {names : List String} (h : ∀ kind, c.has kind = true → kind.name ∈ names) :
    c.only names = c := by
  obtain ⟨fetch, output, logging⟩ := c
  have hfetch : "fetch" ∈ names := h .fetch rfl
  have houtput : (if "output" ∈ names then output else none) = output := by
    cases output with
    | none => simp
    | some o => exact if_pos (h .output rfl)
  have hlogging : (if "logging" ∈ names then logging else none) = logging := by
    cases logging with
    | none => simp
    | some l => exact if_pos (h .logging rfl)
  simp only [only, if_pos hfetch, houtput, hlogging]

/-- Every section that is written is read as what it gives. -/
theorem reads_written (letters : Toml.DigitCase) (c : FileConfig) (kind : SectionKind) :
    (c.written letters kind).Reads (c.Gives kind) := by
  refine ⟨kind.isBareKey_name, fun s hs => ?_⟩
  obtain ⟨value, hvalue, rfl⟩ := Option.map_eq_some_iff.mp hs
  refine ⟨kind.isBareKey_key, ?_⟩
  cases kind with
  | fetch =>
      obtain rfl := Option.some.inj hvalue
      exact Toml.reads_writeTexts fun _ _ d _ => Toml.spells_escapeChar letters d
  | output =>
      obtain ⟨b, hb, rfl⟩ := Option.map_eq_some_iff.mp hvalue
      exact (Toml.reads_writeFlag b).imp fun tree htree => ⟨b, hb, htree⟩
  | logging =>
      obtain ⟨b, hb, rfl⟩ := Option.map_eq_some_iff.mp hvalue
      exact (Toml.reads_writeFlag b).imp fun tree htree => ⟨b, hb, htree⟩

/-- No written value has a dollar sign. -/
theorem not_mem_value {kind : SectionKind} {value : List Char}
    (h : c.value letters kind = some value) : '$' ∉ value := by
  cases kind with
  | fetch =>
      obtain rfl := Option.some.inj h
      exact Toml.not_mem_writeTexts (Toml.not_mem_escapeChar letters) c.fetch.uris
  | output =>
      obtain ⟨b, -, rfl⟩ := Option.map_eq_some_iff.mp h
      exact Toml.not_mem_writeFlag b
  | logging =>
      obtain ⟨b, -, rfl⟩ := Option.map_eq_some_iff.mp h
      exact Toml.not_mem_writeFlag b

/-- The entry of a section adds its settings. -/
theorem readSection_of_is {kind : SectionKind} (hkind : c.has kind = true)
    {e : String × Toml.Tree} (he : (c.written letters kind).Is (c.Gives kind) e) :
    ∃ read, Toml.readSection e.1 = some read ∧
      ∀ names, read (c.only names) e.2 = .ok (c.only (e.1 :: names)) := by
  obtain ⟨name, tree⟩ := e
  obtain ⟨rfl, hholds⟩ : name = kind.name ∧ _ := he
  cases kind with
  | fetch =>
      have hread : tree.asFetchSection = .ok c.fetch := Toml.asFetchSection_of_holds hholds
      refine ⟨_, rfl, fun names => ?_⟩
      simp only [hread]
      simp [only, SectionKind.name]
  | output =>
      obtain ⟨o, ho⟩ := Option.isSome_iff_exists.mp hkind
      have hread : tree.asFlagSection "OutputConfig" "pretty" = .ok (c.output.bind (·.pretty)) :=
        Toml.asFlagSection_of_holds hholds
      rw [ho] at hread
      refine ⟨_, rfl, fun names => ?_⟩
      simp only [hread]
      simp [only, SectionKind.name, ho]
  | logging =>
      obtain ⟨l, hl⟩ := Option.isSome_iff_exists.mp hkind
      have hread : tree.asFlagSection "LoggingConfig" "json" = .ok (c.logging.bind (·.json)) :=
        Toml.asFlagSection_of_holds hholds
      rw [hl] at hread
      refine ⟨_, rfl, fun names => ?_⟩
      simp only [hread]
      simp [only, SectionKind.name, hl]

/-- Reading entries of sections adds the settings of each. -/
theorem readEntries_of_is {entries : List (String × Toml.Tree)}
    (h : ∀ e ∈ entries, ∃ kind, c.has kind = true ∧ (c.written letters kind).Is (c.Gives kind) e)
    (names : List String) :
    Toml.readEntries Toml.readSection (c.only names) entries =
      .ok (c.only ((entries.map Prod.fst).reverse ++ names)) := by
  -- what was read so far is what the configuration has under the names seen so far
  induction entries generalizing names with
  | nil => rfl
  | cons e entries ih =>
      obtain ⟨⟨kind, hkind, he⟩, hentries⟩ := List.forall_mem_cons.mp h
      obtain ⟨read, hread, hok⟩ := readSection_of_is hkind he
      rw [Toml.readEntries_cons hread (hok names), ih hentries, List.map_cons,
        List.reverse_cons, List.append_assoc, List.singleton_append]

/-- Entries that are those of a configuration's sections hold the configuration. -/
theorem asFileConfig_of_is {entries : List (String × Toml.Tree)} {kinds : List SectionKind}
    (hkinds : ∀ kind, kind ∈ kinds ↔ c.has kind = true)
    (hentries : ∀ e ∈ entries, ∃ kind ∈ kinds, (c.written letters kind).Is (c.Gives kind) e)
    (hall : ∀ kind ∈ kinds, ∃ e ∈ entries, (c.written letters kind).Is (c.Gives kind) e) :
    Toml.asFileConfig entries = .ok c := by
  have hknown : ∀ e ∈ entries,
      ∃ kind, c.has kind = true ∧ (c.written letters kind).Is (c.Gives kind) e := by
    intro e he
    obtain ⟨kind, hkind, hekind⟩ := hentries e he
    exact ⟨kind, (hkinds kind).mp hkind, hekind⟩
  rw [Toml.asFileConfig_eq, ← only_nil (c := c), readEntries_of_is hknown, only_of_has]
  intro kind hkind
  obtain ⟨e, he, hname, -⟩ := hall kind ((hkinds kind).mpr hkind)
  have hmem : e.1 ∈ entries.map Prod.fst := List.mem_map_of_mem he
  rw [show e.1 = kind.name from hname] at hmem
  exact List.mem_append_left [] (List.mem_reverse.mpr hmem)

namespace Style

theorem mem_sections {style : Style} {kind : SectionKind} :
    kind ∈ style.sections c ↔ c.has kind = true := by
  have hmem : kind ∈ style.order := by
    rw [style.complete.mem_iff]
    cases kind <;> decide
  rw [sections, List.mem_filter, and_iff_right hmem]

theorem nodup_names_sections (style : Style) (c : FileConfig) :
    ((style.sections c).map SectionKind.name).Nodup := by
  have horder : (style.order.map SectionKind.name).Nodup :=
    (style.complete.map SectionKind.name).nodup_iff.mpr (by decide)
  exact horder.sublist (List.filter_sublist.map SectionKind.name)

theorem ofToml_write (style : Style) (c : FileConfig) : ofToml (style.write c) = .ok c := by
  obtain ⟨entries, hread, hentries, hall⟩ := Toml.document?_writeSections style.form
    (fun kind _ => reads_written style.letters c kind) (style.nodup_names_sections c)
  rw [ofToml, write, hread]
  simp only [asFileConfig_of_is (fun _ => mem_sections) hentries hall]

theorem not_mem_write (style : Style) (c : FileConfig) : '$' ∉ (style.write c).toList := by
  rw [write, String.toList_ofList, Toml.writeSections, List.mem_flatMap]
  rintro ⟨kind, -, hmem⟩
  refine Toml.Section.not_mem_write kind.isBareKey_name (fun s hs => ?_) style.form hmem
  obtain ⟨value, hvalue, rfl⟩ := Option.map_eq_some_iff.mp hs
  exact Toml.Setting.not_mem_write kind.isBareKey_key (not_mem_value hvalue)

/-- **Every configuration loads back from its text, however it is written and under every
environment.** -/
theorem ofText_write (style : Style) (c : FileConfig) (env : Environment) :
    ofText env (style.write c) = .ok c := by
  rw [ofText, Substitution.substitute_of_not_mem env (style.not_mem_write c), style.ofToml_write]

example : (Style.mk .header [.output, .fetch, .logging] (.swap _ _ _) .lower).write
    ⟨⟨["http://a.test/", "$a"]⟩, some ⟨some true⟩, some ⟨none⟩⟩ =
      "[output]\npretty = true\n[fetch]\nuris = [\"http://a.test/\", \"\\u0024a\"]\n[logging]\n" := by
  cbv

example : (Style.mk .inlineTable [.fetch, .output, .logging] (.refl _) .lower).write
    ⟨⟨["http://a.test/"]⟩, some ⟨some true⟩, some ⟨none⟩⟩ =
      "fetch = \x7b uris = [\"http://a.test/\"] \x7d\noutput = \x7b pretty = true \x7d\n" ++
        "logging = \x7b\x7d\n" := by
  cbv

end Style

/-! ### Placeholders in listed URIs -/

/-- The text of a file that lists URIs as they are. -/
def listing (uris : List String) : String :=
  "[fetch]\nuris = " ++ String.ofList (Toml.writeTexts (fun c => [c]) uris)

section Listing

variable {env : Environment} {uris : List String}

theorem toList_listing (uris : List String) : (listing uris).toList =
    "[fetch]\nuris = ".toList ++ Toml.writeTexts (fun c => [c]) uris := by
  unfold listing
  rw [String.toList_append]
  exact congrArg _ String.toList_ofList

theorem listing_eq (uris : List String) :
    listing uris = String.ofList ('[' :: SectionKind.fetch.name.toList ++ ']' :: '\n' ::
      Toml.Setting.write ⟨"uris", Toml.writeTexts (fun c => [c]) uris⟩) := by
  apply String.toList_inj.mp
  rw [toList_listing, String.toList_ofList]
  simp [SectionKind.name, Toml.Setting.write]

/-- A file that lists URIs which need no escapes is read as these URIs. -/
theorem ofToml_listing (h : ∀ uri ∈ uris, uri.toList.all Toml.isPlain = true) :
    ofToml (listing uris) = .ok ⟨⟨uris⟩, none, none⟩ := by
  have huris : Toml.Setting.Reads ⟨"uris", Toml.writeTexts (fun c => [c]) uris⟩ 1
      fun tree => tree.asTexts = .ok uris :=
    ⟨SectionKind.fetch.isBareKey_key,
      Toml.reads_writeTexts fun uri huri c hc =>
        Toml.spells_of_isPlain (List.all_eq_true.mp (h uri huri) c hc)⟩
  obtain ⟨span, v, hv, hread⟩ := Toml.document?_header SectionKind.fetch.isBareKey_name huris
  have hconfig : Toml.asFileConfig [("fetch", .table span [("uris", v)])] =
      .ok ⟨⟨uris⟩, none, none⟩ := by
    rw [Toml.asFileConfig_eq,
      Toml.readEntries_cons rfl (by rw [Toml.asFetchSection_uris hv]; rfl)]
    rfl
  rw [ofToml, listing_eq, hread]
  simp only [SectionKind.name, hconfig]

/-- The marks around a closed text cut it off, so it is filled by itself. -/
theorem filled_writeText {uri : String} (h : Substitution.Closed uri.toList)
    (after : List Char) :
    Substitution.filled env (Toml.writeText (fun c => [c]) uri ++ after) =
      Toml.writeText (fun c => [c]) (substitute env uri) ++ Substitution.filled env after := by
  have hmark : '$' ∉ ['"'] := by decide
  have hopen := Substitution.filled_append_of_not_mem env hmark (uri.toList ++ '"' :: after)
  have hclose := Substitution.filled_append_of_not_mem env hmark after
  have huri := Substitution.filled_append_of_closed env h (show '"' ≠ '\x7b' by decide) after
  simp only [List.singleton_append] at hopen hclose
  simp only [Toml.writeText, List.flatMap_singleton', List.cons_append, List.append_assoc,
    List.nil_append, hopen, huri, hclose, Substitution.toList_substitute]

theorem filled_joinWith (h : ∀ uri ∈ uris, Substitution.Closed uri.toList) (after : List Char) :
    Substitution.filled env
        (joinWith [',', ' '] (uris.map (Toml.writeText fun c => [c])) ++ after) =
      joinWith [',', ' '] ((uris.map (substitute env)).map (Toml.writeText fun c => [c])) ++
        Substitution.filled env after := by
  induction uris with
  | nil => rfl
  | cons uri uris ih =>
      obtain ⟨huri, huris⟩ := List.forall_mem_cons.mp h
      cases uris with
      | nil => exact filled_writeText huri after
      | cons next uris =>
          have hrest := ih huris
          simp only [List.map_cons, joinWith, List.append_assoc] at hrest ⊢
          rw [filled_writeText huri,
            Substitution.filled_append_of_not_mem env (show '$' ∉ [',', ' '] by decide), hrest]

/-- Filling a list of URIs fills each of them. -/
theorem filled_writeTexts (h : ∀ uri ∈ uris, Substitution.Closed uri.toList) :
    Substitution.filled env (Toml.writeTexts (fun c => [c]) uris) =
      Toml.writeTexts (fun c => [c]) (uris.map (substitute env)) := by
  have hopen : '$' ∉ ['['] := by decide
  have hclose : '$' ∉ [']'] := by decide
  have hend := Substitution.filled_append_of_not_mem env hclose []
  rw [Substitution.filled_nil, List.append_nil] at hend
  have hstart := Substitution.filled_append_of_not_mem env hopen
    (joinWith [',', ' '] (uris.map (Toml.writeText fun c => [c])) ++ [']'])
  rw [filled_joinWith h, hend] at hstart
  exact hstart

theorem substitute_listing (h : ∀ uri ∈ uris, Substitution.Closed uri.toList) :
    substitute env (listing uris) = listing (uris.map (substitute env)) := by
  have hstart : '$' ∉ "[fetch]\nuris = ".toList := by decide
  apply String.toList_inj.mp
  rw [Substitution.toList_substitute, toList_listing, toList_listing,
    Substitution.filled_append_of_not_mem env hstart, filled_writeTexts h]

/-- **A file that lists URIs with placeholders gives the filled URIs**, if every placeholder
that is opened in a URI is closed in it and neither URIs nor values need escapes. -/
theorem ofText_listing (huris : ∀ uri ∈ uris, uri.toList.all Toml.isPlain = true)
    (hclosed : ∀ uri ∈ uris, Substitution.Closed uri.toList)
    (henv : ∀ name value, env name = some value → value.toList.all Toml.isPlain = true) :
    ofText env (listing uris) = .ok ⟨⟨uris.map (substitute env)⟩, none, none⟩ := by
  have hplain : ∀ uri ∈ uris.map (substitute env), uri.toList.all Toml.isPlain = true := by
    intro filled hfilled
    obtain ⟨uri, huri, rfl⟩ := List.mem_map.mp hfilled
    rw [Substitution.toList_substitute, List.all_eq_true]
    exact Substitution.forall_mem_filled (List.all_eq_true.mp (huris uri huri))
      fun name value hvalue => List.all_eq_true.mp (henv name value hvalue)
  rw [ofText, substitute_listing hclosed, ofToml_listing hplain]

/-- An environment with one variable, whose value holds its placeholder. -/
def nested : Environment := fun name =>
  if name = "HOST" then some "$\x7bHOST\x7d.test" else none

/-- A value that holds a placeholder stays as it is, as does a variable without a value. -/
theorem ofText_listing_nested :
    ofText nested (listing ["http://$\x7bHOST\x7d/a", "$\x7bSCHEME\x7d://b.test/"]) =
      .ok ⟨⟨["http://$\x7bHOST\x7d.test/a", "$\x7bSCHEME\x7d://b.test/"]⟩, none, none⟩ := by
  have henv : ∀ name value, nested name = some value →
      value.toList.all Toml.isPlain = true := by
    intro name value hvalue
    rw [nested, Option.ite_none_right_eq_some, Option.some.injEq] at hvalue
    obtain ⟨-, rfl⟩ := hvalue
    decide
  have hfilled : ["http://$\x7bHOST\x7d/a", "$\x7bSCHEME\x7d://b.test/"].map (substitute nested) =
      ["http://$\x7bHOST\x7d.test/a", "$\x7bSCHEME\x7d://b.test/"] := by decide +kernel
  rw [ofText_listing (by decide) (by decide) henv, hfilled]

end Listing

end FileConfig
end HttpGet
