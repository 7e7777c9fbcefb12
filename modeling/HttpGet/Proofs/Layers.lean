/-
Layers of settings.

Files can be laid under the settings of the command line, one after another.  What comes of them
is said by `Layered`: the URIs are the first that any layer gives, a flag is on if any layer turns
it on, and the rest is that of the command line.  One more file keeps this so, and hence a
sequence of files does.  A layer that has been laid adds nothing when it is laid again, and
therefore settings that have been resolved are resolved to themselves.

A file that the command line names either gives its layer or an error, and which error it is
tells whether the text or its content is at fault.  What can be read of a working directory is
exactly the files that hold the UTF-8 bytes of a text.
-/
import HttpGet.Config.Resolution
import HttpGet.Proofs.Text.Segmentation

namespace HttpGet

/-! ### Files as layers -/

namespace FileConfig

theorem pretty_eq_true_iff {f : FileConfig} :
    f.pretty = true ↔ f.output = some ⟨some true⟩ := by
  obtain ⟨fetch, output, logging⟩ := f
  cases output with
  | none => simp [pretty]
  | some output =>
      obtain ⟨flag⟩ := output
      cases flag with
      | none => simp [pretty]
      | some flag => simp [pretty]

theorem logJson_eq_true_iff {f : FileConfig} :
    f.logJson = true ↔ f.logging = some ⟨some true⟩ := by
  obtain ⟨fetch, output, logging⟩ := f
  cases logging with
  | none => simp [logJson]
  | some logging =>
      obtain ⟨flag⟩ := logging
      cases flag with
      | none => simp [logJson]
      | some flag => simp [logJson]

end FileConfig

namespace Settings

/-- The first of some lists that has anything in it, and the empty list if there is none. -/
def firstGiven (lists : List (List String)) : List String :=
  (lists.find? fun uris => !uris.isEmpty).getD []

theorem firstGiven_append (lists : List (List String)) (last : List String) :
    firstGiven (lists ++ [last]) =
      if (firstGiven lists).isEmpty then last else firstGiven lists := by
  unfold firstGiven
  rw [List.find?_append]
  cases h : lists.find? fun uris => !uris.isEmpty with
  | none => cases last <;> rfl
  | some uris =>
      have hne := List.find?_some h
      simp_all

/-- If the first list that is given is empty, all are. -/
theorem eq_nil_of_firstGiven {lists : List (List String)} (h : firstGiven lists = [])
    {uris : List String} (huris : uris ∈ lists) : uris = [] := by
  unfold firstGiven at h
  cases hfind : lists.find? fun uris => !uris.isEmpty with
  | none => simpa using List.find?_eq_none.mp hfind uris huris
  | some given =>
      have hne := List.find?_some hfind
      rw [hfind, Option.getD_some] at h
      simp [h] at hne

/-- `s` are the settings of the command line over those of some files, the first of them on
top. -/
structure Layered (given : Settings) (files : List FileConfig) (s : Settings) : Prop where
  uris : s.uris = firstGiven (given.uris :: files.map (·.fetch.uris))
  pretty : s.pretty = true ↔ given.pretty = true ∨ ∃ f ∈ files, f.output = some ⟨some true⟩
  logJson : s.logJson = true ↔ given.logJson = true ∨ ∃ f ∈ files, f.logging = some ⟨some true⟩
  config : s.config = given.config
  verbose : s.verbose = given.verbose

namespace Layered

variable {given s : Settings} {files : List FileConfig}

theorem nil (given : Settings) : Layered given [] given where
  uris := by cases h : given.uris <;> simp [firstGiven]
  pretty := by simp
  logJson := by simp
  config := rfl
  verbose := rfl

/-- One more file under what has been laid. -/
theorem merge (h : Layered given files s) (f : FileConfig) :
    Layered given (files ++ [f]) (s.merge f) where
  uris := by
    rw [List.map_append, List.map_singleton, ← List.cons_append, firstGiven_append, ← h.uris]
    rfl
  pretty := by
    rw [Settings.merge, Bool.or_eq_true, h.pretty, FileConfig.pretty_eq_true_iff, or_assoc]
    simp [or_and_right, exists_or]
  logJson := by
    rw [Settings.merge, Bool.or_eq_true, h.logJson, FileConfig.logJson_eq_true_iff, or_assoc]
    simp [or_and_right, exists_or]
  config := h.config
  verbose := h.verbose

/-- More files, one after another. -/
theorem foldl_merge (h : Layered given files s) (more : List FileConfig) :
    Layered given (files ++ more) (more.foldl Settings.merge s) := by
  induction more generalizing files s with
  | nil => rwa [List.append_nil]
  | cons f more ih =>
      rw [List.append_cons]
      exact ih (h.merge f)

/-- A file that has been laid changes nothing when it is laid again. -/
theorem merge_of_mem (h : Layered given files s) {f : FileConfig} (hf : f ∈ files) :
    s.merge f = s := by
  have huris : s.uris = [] → f.fetch.uris = [] := by
    intro hnil
    refine eq_nil_of_firstGiven (h.uris.symm.trans hnil) (List.mem_cons_of_mem _ ?_)
    exact List.mem_map_of_mem hf
  have hpretty : f.pretty = true → s.pretty = true := by
    intro hflag
    exact h.pretty.mpr (.inr ⟨f, hf, FileConfig.pretty_eq_true_iff.mp hflag⟩)
  have hlogJson : f.logJson = true → s.logJson = true := by
    intro hflag
    exact h.logJson.mpr (.inr ⟨f, hf, FileConfig.logJson_eq_true_iff.mp hflag⟩)
  obtain ⟨uris, config, pretty, logJson, verbose⟩ := s
  rw [Settings.merge, mk.injEq]
  refine ⟨?_, rfl, ?_, ?_, rfl⟩
  · cases uris with
    | nil => exact huris rfl
    | cons uri uris => rfl
  · cases pretty <;> simp_all
  · cases logJson <;> simp_all

end Layered

/-! ### The file that the command line names -/

theorem merge_default (s : Settings) : s.merge default = s := by
  obtain ⟨uris, config, pretty, logJson, verbose⟩ := s
  rw [merge, mk.injEq]
  refine ⟨?_, rfl, Bool.or_false pretty, Bool.or_false logJson, rfl⟩
  cases uris <;> rfl

variable {files : FileReader} {env : Environment} {given s : Settings}

theorem resolve_of_config_eq_none (h : given.config = none) :
    given.resolve files env = .ok given := by
  rw [resolve, h]
  exact congrArg Except.ok given.merge_default

theorem resolve_of_config_eq_some {path : String} (h : given.config = some path) :
    given.resolve files env = (FileConfig.load files env path).map given.merge := by
  rw [resolve, h]

theorem load_eq_ok_iff {path : String} {f : FileConfig} :
    FileConfig.load files env path = .ok f ↔
      ∃ text, files path = .ok text ∧ FileConfig.ofToml (substitute env text) = .ok f := by
  rw [FileConfig.load]
  cases files path with
  | error failure => simp
  | ok text =>
      simp only [FileConfig.ofText, Except.ok.injEq, exists_eq_left']
      cases FileConfig.ofToml (substitute env text) with
      | error fault => simp
      | ok config => simp

/-- A file that gives no layer cannot be read as text, or its text does not hold settings. -/
theorem load_eq_error_iff {path : String} {e : GetError} :
    FileConfig.load files env path = .error e ↔
      (∃ failure, files path = .error failure ∧ e = .configuration
        ("Failed to read config file " ++ path ++ ": " ++ failure.message)) ∨
      ∃ text fault, files path = .ok text ∧
        FileConfig.ofToml (substitute env text) = .error fault ∧ e = .toml fault := by
  rw [FileConfig.load]
  cases files path with
  | error failure => simp [eq_comm]
  | ok text =>
      simp only [FileConfig.ofText, Except.ok.injEq, exists_and_left, exists_eq_left']
      cases FileConfig.ofToml (substitute env text) with
      | error fault => simp [eq_comm]
      | ok config => simp

/-- Settings are resolved if no file is named, or if the one that is named gives a layer. -/
theorem resolve_eq_ok_iff :
    given.resolve files env = .ok s ↔
      (given.config = none ∧ s = given) ∨
      ∃ path text f, given.config = some path ∧ files path = .ok text ∧
        FileConfig.ofToml (substitute env text) = .ok f ∧ s = given.merge f := by
  cases hconfig : given.config with
  | none => simp [resolve_of_config_eq_none hconfig, eq_comm]
  | some path =>
      rw [resolve_of_config_eq_some hconfig]
      cases hload : FileConfig.load files env path with
      | ok f =>
          obtain ⟨text, htext, hf⟩ := load_eq_ok_iff.mp hload
          simp [Except.map, htext, hf, eq_comm]
      | error e =>
          have hnone : ∀ f text, files path = .ok text →
              FileConfig.ofToml (substitute env text) ≠ .ok f := by
            intro f text htext hf
            exact absurd (hload.symm.trans (load_eq_ok_iff.mpr ⟨text, htext, hf⟩)) (by simp)
          simpa [Except.map] using fun text htext f hf => absurd hf (hnone f text htext)

theorem resolve_eq_error_iff {e : GetError} :
    given.resolve files env = .error e ↔
      ∃ path, given.config = some path ∧ FileConfig.load files env path = .error e := by
  cases hconfig : given.config with
  | none => simp [resolve_of_config_eq_none hconfig]
  | some path =>
      rw [resolve_of_config_eq_some hconfig]
      simp only [Option.some.injEq, exists_eq_left']
      cases FileConfig.load files env path with
      | ok f => simp [Except.map]
      | error e => simp [Except.map]

/-- Settings that cannot be resolved have the exit code of a file that is no use. -/
theorem exitCode_of_resolve {e : GetError} (h : given.resolve files env = .error e) :
    e.exitCode = 2 := by
  obtain ⟨path, -, hload⟩ := resolve_eq_error_iff.mp h
  rcases load_eq_error_iff.mp hload with ⟨failure, -, rfl⟩ | ⟨text, fault, -, -, rfl⟩
  · rfl
  · rfl

/-- Settings that were resolved name the same file, whose layer they have already. -/
theorem resolve_of_resolve (h : given.resolve files env = .ok s) : s.resolve files env = .ok s := by
  rcases resolve_eq_ok_iff.mp h with ⟨hconfig, rfl⟩ | ⟨path, text, f, hconfig, htext, hf, rfl⟩
  · exact resolve_of_config_eq_none hconfig
  · have habsorbed : (given.merge f).merge f = given.merge f :=
      ((Layered.nil given).merge f).merge_of_mem (List.mem_append_right _ List.mem_cons_self)
    exact resolve_eq_ok_iff.mpr (.inr ⟨path, text, f, hconfig, htext, hf, habsorbed.symm⟩)

end Settings

/-- A text is read from a path of a working directory if a file of its bytes stands there. -/
theorem FileTree.reader_eq_ok_iff {workingDirectory : FileTree} {path text : String} :
    workingDirectory.reader path = .ok text ↔
      workingDirectory.find path = .ok (some (.file (Utf8.encode text))) := by
  rw [reader]
  cases workingDirectory.find path with
  | error failure => simp
  | ok found =>
      cases found with
      | none => simp
      | some tree =>
          cases tree with
          | directory entries => simp
          | file bytes =>
              rw [Except.ok.injEq, Option.some.injEq, file.injEq, ← Utf8.decode?_eq_some_iff]
              dsimp only
              cases Utf8.decode? bytes with
              | none => simp
              | some read => simp

namespace Settings

/-- **How layers of settings add up, and where they come from.**  Files that are laid under the
settings of the command line, one after another, come to what `Layered` says, and none of them
changes anything when it is laid again.  Without a file the settings of the command line are
resolved to themselves, whatever the files and the environment; with one they are resolved
exactly if it can be read as text and the text, once its placeholders are replaced, holds a layer.
What cannot be read is an error of the configuration that names the path, and every other
failure one of the text.  Settings that were resolved are resolved to themselves.  Of a working
directory that can be read which is a file of the bytes of a text. -/
theorem resolve_layers (given : Settings) :
    (∀ layers : List FileConfig,
      Layered given layers (layers.foldl merge given) ∧
      ∀ f ∈ layers, (layers.foldl merge given).merge f = layers.foldl merge given) ∧
    (given.config = none → ∀ files env, given.resolve files env = .ok given) ∧
    (∀ (files : FileReader) (env : Environment),
      (∀ s, given.resolve files env = .ok s ↔
        (given.config = none ∧ s = given) ∨
        ∃ path text f, given.config = some path ∧ files path = .ok text ∧
          FileConfig.ofToml (substitute env text) = .ok f ∧ s = given.merge f) ∧
      (∀ e, given.resolve files env = .error e ↔ ∃ path, given.config = some path ∧
        ((∃ failure, files path = .error failure ∧ e = .configuration
          ("Failed to read config file " ++ path ++ ": " ++ failure.message)) ∨
        ∃ text fault, files path = .ok text ∧
          FileConfig.ofToml (substitute env text) = .error fault ∧ e = .toml fault)) ∧
      ∀ s, given.resolve files env = .ok s → s.resolve files env = .ok s) ∧
    ∀ (workingDirectory : FileTree) (path text : String),
      workingDirectory.reader path = .ok text ↔
        workingDirectory.find path = .ok (some (.file (Utf8.encode text))) := by
  refine ⟨?_, fun h files env => resolve_of_config_eq_none h, ?_, fun _ _ _ =>
    FileTree.reader_eq_ok_iff⟩
  · intro layers
    have hlayered : Layered given layers (layers.foldl merge given) :=
      (Layered.nil given).foldl_merge layers
    exact ⟨hlayered, fun f hf => hlayered.merge_of_mem hf⟩
  · intro files env
    refine ⟨fun s => resolve_eq_ok_iff, ?_, fun s => resolve_of_resolve⟩
    intro e
    rw [resolve_eq_error_iff]
    simp only [load_eq_error_iff]

/-- A file with a placeholder in it. -/
def placeholderText : String := "output.pretty = true\nfetch.uris = [\"$\x7bU\x7d\"]"

/-- A working directory with that file. -/
def placeholderDirectory : FileTree :=
  .directory [("c.toml", .file (Utf8.encode placeholderText))]

/-- An environment with a value for the placeholder. -/
def placeholderEnv : Environment := fun name => if name = "U" then some "http://ä/" else none

/-- Layers of which the second gives URIs, and the last turns a flag on. -/
def threeLayers : List FileConfig :=
  [⟨⟨[]⟩, some ⟨some false⟩, none⟩, ⟨⟨["http://a/"]⟩, some ⟨none⟩, some ⟨some true⟩⟩,
    ⟨⟨["http://b/"]⟩, some ⟨some true⟩, none⟩]

theorem find_placeholderDirectory : placeholderDirectory.find "./c.toml" =
    .ok (some (.file (Utf8.encode placeholderText))) := by
  have hnames : FileTree.namesOf "./c.toml" = [".", "c.toml"] := by decide +kernel
  rw [FileTree.find, if_neg (by simp), if_neg (by decide), if_neg (by decide +kernel), hnames,
    if_neg (by simp)]
  rfl

theorem ofToml_placeholderText : FileConfig.ofToml (substitute placeholderEnv placeholderText) =
    .ok ⟨⟨["http://ä/"]⟩, some ⟨some true⟩, none⟩ := by
  have hread : (FileConfig.ofToml (substitute placeholderEnv placeholderText)).toOption =
      some ⟨⟨["http://ä/"]⟩, some ⟨some true⟩, none⟩ := by decide +kernel
  cases h : FileConfig.ofToml (substitute placeholderEnv placeholderText) with
  | error e =>
      rw [h] at hread
      exact absurd hread (by simp [Except.toOption])
  | ok f =>
      rw [h] at hread
      rw [Option.some.inj hread]

/-- Three layers, a file that is resolved twice, and no file. -/
theorem resolve_layers_filled :
    (threeLayers.foldl merge ⟨[], none, false, false, true⟩).uris = ["http://a/"] ∧
    (threeLayers.foldl merge ⟨[], none, false, false, true⟩).pretty = true ∧
    (threeLayers.foldl merge ⟨[], none, false, false, true⟩).merge
        ⟨⟨["http://b/"]⟩, some ⟨some true⟩, none⟩ =
      threeLayers.foldl merge ⟨[], none, false, false, true⟩ ∧
    Settings.resolve placeholderDirectory.reader placeholderEnv
        ⟨[], some "./c.toml", false, false, true⟩ =
      .ok ⟨["http://ä/"], some "./c.toml", true, false, true⟩ ∧
    Settings.resolve placeholderDirectory.reader placeholderEnv
        ⟨["http://ä/"], some "./c.toml", true, false, true⟩ =
      .ok ⟨["http://ä/"], some "./c.toml", true, false, true⟩ ∧
    Settings.resolve (fun _ => .error .denied) placeholderEnv ⟨["-"], none, true, false, false⟩ =
      .ok ⟨["-"], none, true, false, false⟩ := by
  obtain ⟨hlayered, habsorbed⟩ := (resolve_layers ⟨[], none, false, false, true⟩).1 threeLayers
  obtain ⟨-, -, hresolve, hread⟩ := resolve_layers ⟨[], some "./c.toml", false, false, true⟩
  obtain ⟨hok, -, hagain⟩ := hresolve placeholderDirectory.reader placeholderEnv
  have htext : placeholderDirectory.reader "./c.toml" = .ok placeholderText :=
    (hread placeholderDirectory "./c.toml" placeholderText).mpr find_placeholderDirectory
  have hlayer : FileConfig.ofToml (substitute placeholderEnv placeholderText) =
      .ok ⟨⟨["http://ä/"]⟩, some ⟨some true⟩, none⟩ := ofToml_placeholderText
  have hresolved := (hok ⟨["http://ä/"], some "./c.toml", true, false, true⟩).mpr
    (.inr ⟨"./c.toml", placeholderText, _, rfl, htext, hlayer, rfl⟩)
  refine ⟨hlayered.uris, ?_, ?_, hresolved, hagain _ hresolved,
    (resolve_layers ⟨["-"], none, true, false, false⟩).2.1 rfl _ _⟩
  · exact hlayered.pretty.mpr
      (.inr ⟨⟨⟨["http://b/"]⟩, some ⟨some true⟩, none⟩, by simp [threeLayers], rfl⟩)
  · exact habsorbed _ (by simp [threeLayers])

end Settings
end HttpGet
