/-
What a command line means.

Switches and URIs may stand in any order.  What has been read of them tells the same settings
wherever a URI has interrupted the switches or a switch the URIs: the URIs since the last switch
are still pending, but once they count the settings are those of the switches and the URIs that
were given.  One argument keeps this so, and hence an interleaving of switches and URIs does.
After two hyphens alone everything is a URI.

A switch that takes a value is given here with an equals sign, so that the value needs no
argument of its own and may be any text.  Every settings can be written that way.
-/
import HttpGet.CommandLine.Parser
import Mathlib.Data.List.Nodup

namespace HttpGet.CommandLine

/-! ### Switches as they are given -/

/-- A list is made of two others, each of which keeps its order. -/
inductive Interleaved {α : Type} : List α → List α → List α → Prop
  | nil : Interleaved [] [] []
  | left {x : α} {xs ys zs : List α} (h : Interleaved xs ys zs) :
      Interleaved (x :: xs) ys (x :: zs)
  | right {y : α} {xs ys zs : List α} (h : Interleaved xs ys zs) :
      Interleaved xs (y :: ys) (y :: zs)

/-- A list alone is interleaved with nothing. -/
theorem Interleaved.alone {α : Type} (xs : List α) : Interleaved xs [] xs := by
  induction xs with
  | nil => exact .nil
  | cons x xs ih => exact .left ih

/-- A switch as it is given: a name in full or in one letter, and a value if it takes one. -/
inductive Given where
  | pretty
  | logJson
  | verbose (short : Bool)
  | config (path : String)
deriving DecidableEq, Repr

namespace Given

/-- Which switch is given. -/
def switch : Given → Switch
  | pretty => .pretty
  | logJson => .logJson
  | verbose _ => .verbose
  | config _ => .config

/-- The argument that gives a switch. -/
def text : Given → String
  | pretty => "--pretty"
  | logJson => "--log-json"
  | verbose false => "--verbose"
  | verbose true => "-v"
  | config path => "--config=" ++ path

/-- The value that is given; a switch that takes none has the empty one. -/
def value : Given → String
  | config path => path
  | _ => ""

end Given

/-- Whether a text is a URI where it stands: it does not look like a switch. -/
def IsUri (text : String) : Prop := text = "" ∨ text = "-" ∨ text.toList.head? ≠ some '-'

/-- Settings tell which switches were given, and which URIs. -/
structure Tells (s : Settings) (given : List Given) (uris : List String) : Prop where
  uris : s.uris = uris
  pretty : s.pretty = true ↔ .pretty ∈ given
  logJson : s.logJson = true ↔ .logJson ∈ given
  verbose : s.verbose = true ↔ ∃ short, .verbose short ∈ given
  config : ∀ path, s.config = some path ↔ .config path ∈ given

/-- There are no other settings that tell the same. -/
theorem Tells.unique {s s' : Settings} {given given' : List Given} {uris : List String}
    (h : Tells s given uris) (h' : Tells s' given' uris) (hgiven : ∀ g, g ∈ given ↔ g ∈ given') :
    s = s' := by
  have huris : s.uris = s'.uris := h.uris.trans h'.uris.symm
  have hpretty : s.pretty = s'.pretty := by
    rw [Bool.eq_iff_iff, h.pretty, h'.pretty, hgiven]
  have hlogJson : s.logJson = s'.logJson := by
    rw [Bool.eq_iff_iff, h.logJson, h'.logJson, hgiven]
  have hverbose : s.verbose = s'.verbose := by
    rw [Bool.eq_iff_iff, h.verbose, h'.verbose]
    simp only [hgiven]
  have hconfig : s.config = s'.config := by
    refine Option.ext fun path => ?_
    rw [h.config, h'.config, hgiven]
  cases s with
  | mk =>
      cases s' with
      | mk =>
          rw [Settings.mk.injEq]
          exact ⟨huris, hconfig, hpretty, hlogJson, hverbose⟩

/-! ### Reading one argument -/

theorem ofText_config (path : String) :
    Argument.ofText ("--config=" ++ path) = .long "config" (some path) := by
  have htext : ("--config=" ++ path).toList = "--config=".toList ++ path.toList :=
    String.toList_append
  rw [Argument.ofText, htext]
  simp

theorem ofText_uri {text : String} (h : IsUri text) : Argument.ofText text = .plain := by
  obtain rfl | rfl | h := h
  · rfl
  · rfl
  · rw [Argument.ofText]
    split
    · rename_i htext
      exact absurd (by rw [htext]; rfl) h
    · rename_i htext
      exact absurd (by rw [htext]; rfl) h
    · rfl

theorem IsUri.ne_hyphens {text : String} (h : IsUri text) : text ≠ "--" := by
  rintro rfl
  obtain h | h | h := h
  · exact absurd h (by decide)
  · exact absurd h (by decide)
  · exact h rfl

theorem Given.text_ne_hyphens (g : Given) : g.text ≠ "--" := by
  intro h
  cases g with
  | pretty => exact absurd h (by decide)
  | logJson => exact absurd h (by decide)
  | verbose short => cases short <;> exact absurd h (by decide)
  | config path =>
      have hlist := congrArg String.toList h
      rw [Given.text, String.toList_append] at hlist
      simp at hlist

/-- A cluster of one switch without a value gives the switch. -/
theorem addCluster_verbose (s : State) : s.addCluster ['v'] = s.react .verbose "" := by
  rw [State.addCluster]
  simp only [Switch.ofShort?]
  cases s.react .verbose "" with
  | ok s => rfl
  | error e => rfl

/-- Reading the argument of a switch gives the switch. -/
theorem add_text (s : State) (g : Given) : s.add g.text = s.react g.switch g.value := by
  cases g with
  | pretty => rfl
  | logJson => rfl
  | verbose short =>
      cases short with
      | false => rfl
      | true => exact addCluster_verbose s
  | config path =>
      rw [State.add, Given.text, ofText_config]
      rfl

/-- A switch that was not given yet can be given, and then the settings tell of it. -/
theorem exists_give {settings : Settings} {given : List Given} {uris : List String}
    (h : Tells settings given uris) {g : Given} (hnew : g.switch ∉ given.map Given.switch) :
    ∃ settings', State.give ⟨settings, given.map Given.switch, .nothing⟩ g.switch g.value =
        .ok ⟨settings', (given ++ [g]).map Given.switch, .nothing⟩ ∧
      Tells settings' (given ++ [g]) uris := by
  have hcontains : ¬ (given.map Given.switch).contains g.switch = true := by
    rwa [List.contains_iff_mem]
  rw [State.give, if_neg hcontains, List.map_append, List.map_singleton]
  cases g with
  | pretty =>
      exact ⟨{ settings with pretty := true }, rfl, h.uris, by simp, by simp [h.logJson],
        by simp [h.verbose], fun path => by simp [h.config]⟩
  | logJson =>
      exact ⟨{ settings with logJson := true }, rfl, h.uris, by simp [h.pretty], by simp,
        by simp [h.verbose], fun path => by simp [h.config]⟩
  | verbose short =>
      exact ⟨{ settings with verbose := true }, rfl, h.uris, by simp [h.pretty],
        by simp [h.logJson], by simp, fun path => by simp [h.config]⟩
  | config path =>
      refine ⟨{ settings with config := some path }, rfl, h.uris, by simp [h.pretty],
        by simp [h.logJson], by simp [h.verbose], fun other => ?_⟩
      have hother : .config other ∉ given := fun hmem =>
        hnew (List.mem_map.mpr ⟨.config other, hmem, rfl⟩)
      simp [hother, eq_comm]

/-- Adding a URI lets it count after those that are pending. -/
theorem exists_addUri {s done : State} (h : s.resolve = .ok done)
    (hpending : ∀ value, s.pending ≠ .config value) (uri : String) :
    ∃ s', s.addUri uri = .ok s' ∧ (∀ value, s'.pending ≠ .config value) ∧
      s'.resolve = .ok { done with
        settings := { done.settings with uris := done.settings.uris ++ [uri] } } := by
  obtain ⟨settings, switches, pending⟩ := s
  cases pending with
  | nothing =>
      obtain rfl := Except.ok.inj h
      exact ⟨_, rfl, fun value => by simp, rfl⟩
  | uris texts =>
      obtain rfl := Except.ok.inj h
      refine ⟨_, rfl, fun value => by simp, ?_⟩
      simp only [State.resolve, List.append_assoc]
  | config value => exact absurd rfl (hpending value)

/-! ### Reading arguments -/

/-- A state is one in which these switches and URIs have been read: once what is pending
counts, the settings tell of them, and no value is awaited. -/
structure Reads (s : State) (given : List Given) (uris : List String) : Prop where
  resolve : ∃ settings, s.resolve = .ok ⟨settings, given.map Given.switch, .nothing⟩ ∧
    Tells settings given uris
  pending : ∀ value, s.pending ≠ .config value

theorem tells_default : Tells default [] [] where
  uris := rfl
  pretty := by decide
  logJson := by decide
  verbose := by simp [default]
  config path := by simp [default]

theorem reads_start : Reads default [] [] where
  resolve := ⟨default, rfl, tells_default⟩
  pending value := by simp [default]

theorem Reads.add_given {s : State} {given : List Given} {uris : List String}
    (h : Reads s given uris) {g : Given} (hnew : g.switch ∉ given.map Given.switch) :
    ∃ s', s.add g.text = .ok s' ∧ Reads s' (given ++ [g]) uris := by
  obtain ⟨settings, hresolve, htells⟩ := h.resolve
  obtain ⟨settings', hgive, htells'⟩ := exists_give htells hnew
  refine ⟨⟨settings', (given ++ [g]).map Given.switch, .nothing⟩, ?_, ⟨settings', rfl, htells'⟩,
    fun value => by simp⟩
  rw [add_text, State.react, hresolve]
  exact hgive

theorem Reads.addUri {s : State} {given : List Given} {uris : List String}
    (h : Reads s given uris) (uri : String) :
    ∃ s', s.addUri uri = .ok s' ∧ Reads s' given (uris ++ [uri]) := by
  obtain ⟨settings, hresolve, htells⟩ := h.resolve
  obtain ⟨s', hadd, hpending, hresolve'⟩ := exists_addUri hresolve h.pending uri
  refine ⟨s', hadd, ⟨_, hresolve', ?_⟩, hpending⟩
  exact ⟨by rw [htells.uris], htells.pretty, htells.logJson, htells.verbose, htells.config⟩

theorem Reads.add_uri {s : State} {given : List Given} {uris : List String}
    (h : Reads s given uris) {uri : String} (huri : IsUri uri) :
    ∃ s', s.add uri = .ok s' ∧ Reads s' given (uris ++ [uri]) := by
  have hadd : s.add uri = s.addUri uri := by
    rw [State.add, ofText_uri huri]
    change s.addPlain uri = s.addUri uri
    rw [State.addPlain]
    split
    · rename_i hp
      exact absurd hp (h.pending none)
    · rfl
  rw [hadd]
  exact h.addUri uri

/-- After two hyphens alone every argument is a URI. -/
theorem Reads.readUris {s : State} {given : List Given} {uris : List String}
    (h : Reads s given uris) (vs : List String) :
    ∃ s', readUris s vs = .ok s' ∧ Reads s' given (uris ++ vs) := by
  induction vs generalizing s uris with
  | nil => exact ⟨s, rfl, by rwa [List.append_nil]⟩
  | cons v vs ih =>
      obtain ⟨s₁, hadd, hreads⟩ := h.addUri v
      obtain ⟨s₂, hrest, hreads'⟩ := ih hreads
      refine ⟨s₂, ?_, by rwa [List.append_cons]⟩
      rw [CommandLine.readUris, hadd]
      exact hrest

theorem readArguments_of_add {s s' : State} {text : String} (hne : text ≠ "--")
    (h : s.add text = .ok s') (rest : List String) :
    readArguments s (text :: rest) = readArguments s' rest := by
  rw [readArguments, if_neg hne, h]

/-- Switches and URIs are read in whatever order they come. -/
theorem Reads.readArguments {s : State} {given : List Given} {uris : List String}
    (h : Reads s given uris) {options : List Given} {us args : List String}
    (hargs : Interleaved (options.map Given.text) us args)
    (honce : ((given ++ options).map Given.switch).Nodup) (hus : ∀ u ∈ us, IsUri u)
    (vs : List String) :
    ∃ s', readArguments s (args ++ "--" :: vs) = .ok s' ∧
      Reads s' (given ++ options) (uris ++ us ++ vs) := by
  generalize htexts : options.map Given.text = texts at hargs
  induction hargs generalizing s given uris options with
  | nil =>
      obtain rfl := List.map_eq_nil_iff.mp htexts
      rw [List.append_nil, List.append_nil]
      exact h.readUris vs
  | @left text texts us args hargs ih =>
      obtain ⟨g, options, rfl, rfl, rfl⟩ := List.map_eq_cons_iff.mp htexts
      have hnew : g.switch ∉ given.map Given.switch := by
        rw [List.map_append, List.map_cons] at honce
        exact fun hmem => (List.nodup_append.mp honce).2.2 _ hmem _ List.mem_cons_self rfl
      obtain ⟨s₁, hadd, hreads⟩ := h.add_given hnew
      rw [List.append_cons given g options] at honce ⊢
      obtain ⟨s₂, hrest, hreads'⟩ := ih hreads honce hus rfl
      refine ⟨s₂, ?_, hreads'⟩
      rw [List.cons_append, readArguments_of_add g.text_ne_hyphens hadd, hrest]
  | @right u texts us args hargs ih =>
      obtain ⟨huri, hus⟩ := List.forall_mem_cons.mp hus
      obtain ⟨s₁, hadd, hreads⟩ := h.add_uri huri
      obtain ⟨s₂, hrest, hreads'⟩ := ih hreads honce hus htexts
      refine ⟨s₂, ?_, by rwa [List.append_cons uris u us]⟩
      rw [List.cons_append, readArguments_of_add huri.ne_hyphens hadd, hrest]

/-- What a command line tells that interleaves switches and URIs. -/
theorem exists_parse_interleaved {options : List Given} {us args : List String}
    (hus : ∀ u ∈ us, IsUri u) (honce : (options.map Given.switch).Nodup)
    (hargs : Interleaved (options.map Given.text) us args) (vs : List String) :
    ∃ s, parse (args ++ "--" :: vs) = .ok s ∧ Tells s options (us ++ vs) := by
  obtain ⟨last, hread, ⟨settings, hresolve, htells⟩, -⟩ :=
    reads_start.readArguments hargs honce hus vs
  refine ⟨settings, ?_, htells⟩
  rw [parse, hread]
  simp only [hresolve, Except.map]

/-! ### Command lines for settings -/

/-- The switches that settings tell of. -/
def givenOf (s : Settings) : List Given :=
  (if s.pretty then [.pretty] else []) ++ (if s.logJson then [.logJson] else []) ++
    (if s.verbose then [.verbose false] else []) ++ (s.config.map Given.config).toList

theorem tells_givenOf (s : Settings) : Tells s (givenOf s) s.uris where
  uris := rfl
  pretty := by cases h : s.pretty <;> simp [givenOf, h]
  logJson := by cases h : s.logJson <;> simp [givenOf, h]
  verbose := by cases h : s.verbose <;> simp [givenOf, h]
  config path := by
    cases h : s.config with
    | none => simp [givenOf, h]
    | some given =>
        rw [Option.some.injEq, eq_comm]
        simp [givenOf, h]

/-- Settings tell of each switch once. -/
theorem nodup_givenOf (s : Settings) : ((givenOf s).map Given.switch).Nodup := by
  have hall : ((givenOf s).map Given.switch).Sublist [.pretty, .logJson, .verbose, .config] := by
    rw [givenOf, List.map_append, List.map_append, List.map_append]
    refine (((?_ : List.Sublist _ [Switch.pretty]).append
      (?_ : List.Sublist _ [Switch.logJson])).append
      (?_ : List.Sublist _ [Switch.verbose])).append (?_ : List.Sublist _ [Switch.config])
    · cases s.pretty <;> simp [Given.switch]
    · cases s.logJson <;> simp [Given.switch]
    · cases s.verbose <;> simp [Given.switch]
    · cases s.config <;> simp [Given.switch]
  exact hall.nodup (by decide)

/-- **Switches and URIs mean the same in whatever order they are interleaved: the URIs are those
before two hyphens alone and then those after them, a flag is on exactly if its switch is given,
and the configuration is the one that is given, if any.  Every settings are those of some
command line.** -/
theorem parse_interleaved :
    (∀ (options : List Given) (us vs args : List String), (∀ u ∈ us, IsUri u) →
      (options.map Given.switch).Nodup → Interleaved (options.map Given.text) us args →
      (∃ s, parse (args ++ "--" :: vs) = .ok s ∧ Tells s options (us ++ vs)) ∧
      ∀ (options' : List Given) (args' : List String), options'.Perm options →
        Interleaved (options'.map Given.text) us args' →
        parse (args' ++ "--" :: vs) = parse (args ++ "--" :: vs)) ∧
    ∀ s : Settings, ∃ arguments, parse arguments = .ok s := by
  constructor
  · intro options us vs args hus honce hargs
    obtain ⟨s, hparse, htells⟩ := exists_parse_interleaved hus honce hargs vs
    refine ⟨⟨s, hparse, htells⟩, ?_⟩
    intro options' args' hperm hargs'
    have honce' : (options'.map Given.switch).Nodup :=
      (hperm.map Given.switch).nodup_iff.mpr honce
    obtain ⟨s', hparse', htells'⟩ := exists_parse_interleaved hus honce' hargs' vs
    rw [hparse', hparse, htells'.unique htells fun g => hperm.mem_iff]
  · intro s
    have hus : ∀ u ∈ ([] : List String), IsUri u := by simp
    obtain ⟨s', hparse, htells⟩ :=
      exists_parse_interleaved hus (nodup_givenOf s) (.alone _) s.uris
    refine ⟨_, hparse.trans (congrArg Except.ok ?_)⟩
    exact htells.unique (tells_givenOf s) fun _ => Iff.rfl

/-- Hyphens alone, an empty URI, a value with an equals sign, and switches that are URIs. -/
theorem parse_interleaved_dashes :
    (∀ u ∈ ["-", "", "http://a/"], IsUri u) ∧
      ([Given.config "a=b", .verbose true, .pretty].map Given.switch).Nodup ∧
      Interleaved ([Given.config "a=b", .verbose true, .pretty].map Given.text)
        ["-", "", "http://a/"] ["-", "--config=a=b", "", "-v", "http://a/", "--pretty"] ∧
      [Given.pretty, .config "a=b", .verbose true].Perm
        [Given.config "a=b", .verbose true, .pretty] ∧
      Interleaved ([Given.pretty, .config "a=b", .verbose true].map Given.text)
        ["-", "", "http://a/"] ["--pretty", "--config=a=b", "-v", "-", "", "http://a/"] ∧
      (∃ s, parse (["-", "--config=a=b", "", "-v", "http://a/", "--pretty"] ++
          "--" :: ["--log-json", "--"]) = .ok s ∧
        s.uris = ["-", "", "http://a/", "--log-json", "--"] ∧ s.config = some "a=b" ∧
        s.logJson = false) ∧
      parse (["--pretty", "--config=a=b", "-v", "-", "", "http://a/"] ++
          "--" :: ["--log-json", "--"]) =
        parse (["-", "--config=a=b", "", "-v", "http://a/", "--pretty"] ++
          "--" :: ["--log-json", "--"]) := by
  have hus : ∀ u ∈ ["-", "", "http://a/"], IsUri u := by
    simp [IsUri]
  have honce : ([Given.config "a=b", .verbose true, .pretty].map Given.switch).Nodup := by decide
  have hargs : Interleaved ([Given.config "a=b", .verbose true, .pretty].map Given.text)
      ["-", "", "http://a/"] ["-", "--config=a=b", "", "-v", "http://a/", "--pretty"] :=
    .right (.left (.right (.left (.right (.left .nil)))))
  have hperm : [Given.pretty, .config "a=b", .verbose true].Perm
      [Given.config "a=b", .verbose true, .pretty] := by decide
  have hargs' : Interleaved ([Given.pretty, .config "a=b", .verbose true].map Given.text)
      ["-", "", "http://a/"] ["--pretty", "--config=a=b", "-v", "-", "", "http://a/"] :=
    .left (.left (.left (.right (.right (.right .nil)))))
  obtain ⟨⟨s, hparse, htells⟩, horder⟩ := parse_interleaved.1
    [.config "a=b", .verbose true, .pretty] ["-", "", "http://a/"] ["--log-json", "--"] _ hus
    honce hargs
  refine ⟨hus, honce, hargs, hperm, hargs', ⟨s, hparse, htells.uris, ?_, ?_⟩,
    horder _ _ hperm hargs'⟩
  · exact (htells.config "a=b").mpr (by decide)
  · rw [Bool.eq_false_iff, ne_eq, htells.logJson]
    decide

end HttpGet.CommandLine
