/-
What a verbose run adds to its log.

A run with `--verbose` differs from the run without it in two things: the filter for its log
events, unless the environment has one, and the event that tells the settings, which tells the
switch too.  Every other event is the same, and in the same place.  The standard filters let all
events of the program up to some level pass, so the verbose run shows what the other shows, and
the events for debugging between.  A filter of the environment looks at neither the switch nor
the wording of an event.

That the switch can be added at all has to be shown of the command line: read after it, the other
arguments come to the same settings, unless they give it themselves.
-/
import HttpGet.Proofs.Arguments
import HttpGet.Proofs.Layers
import HttpGet.Proofs.LogLines

namespace HttpGet

/-- The settings with the switch for a verbose run. -/
def Settings.verbosely (s : Settings) : Settings := { s with verbose := true }

/-! ### The switch on the command line -/

namespace CommandLine

/-- The state in which the same has been read after the switch. -/
def State.verbosely (s : State) : State :=
  { s with settings := s.settings.verbosely, switches := .verbose :: s.switches }

/-- Where a step of reading leaves the settings without the switch, they were without it before,
and the step goes the same way after the switch. -/
def Indifferent (step : State → Except Failure State) : Prop :=
  ∀ s t, step s = .ok t → t.settings.verbose = false →
    s.settings.verbose = false ∧ step s.verbosely = .ok t.verbosely

namespace Indifferent

variable {f g : State → Except Failure State}

theorem ok : Indifferent .ok := by
  intro s t h hquiet
  obtain rfl := Except.ok.inj h
  exact ⟨hquiet, rfl⟩

/-- One step after another. -/
theorem andThen (hf : Indifferent f) (hg : Indifferent g) :
    Indifferent fun s =>
      match f s with
      | .ok s => g s
      | .error e => .error e := by
  intro s t h hquiet
  dsimp only at h ⊢
  cases hfirst : f s with
  | error e =>
      rw [hfirst] at h
      exact absurd h (by simp)
  | ok between =>
      rw [hfirst] at h
      obtain ⟨hbetween, hsecond⟩ := hg between t h hquiet
      obtain ⟨hstart, hloud⟩ := hf s between hfirst hbetween
      refine ⟨hstart, ?_⟩
      rw [hloud]
      exact hsecond

theorem give (switch : Switch) (value : String) : Indifferent (·.give switch value) := by
  intro s t h hquiet
  dsimp only at h ⊢
  by_cases hgiven : s.switches.contains switch = true
  · rw [State.give, if_pos hgiven] at h
    exact absurd h (by simp)
  rw [State.give, if_neg hgiven] at h
  have hgiven' : switch ≠ .verbose → ¬ s.verbosely.switches.contains switch = true := by
    intro hne
    rw [List.contains_iff_mem] at hgiven ⊢
    exact fun hmem => hgiven ((List.mem_cons.mp hmem).resolve_left hne)
  cases switch with
  | verbose =>
      rw [← Except.ok.inj h] at hquiet
      exact absurd hquiet (by simp)
  | help => exact absurd h (by simp)
  | config | pretty | logJson =>
      obtain rfl := Except.ok.inj h
      refine ⟨hquiet, ?_⟩
      rw [State.give, if_neg (hgiven' (by simp))]
      rfl

theorem resolve : Indifferent State.resolve := by
  rintro ⟨settings, switches, pending⟩ t h hquiet
  cases pending with
  | nothing =>
      obtain rfl := Except.ok.inj h
      exact ⟨hquiet, rfl⟩
  | uris texts =>
      obtain rfl := Except.ok.inj h
      exact ⟨hquiet, rfl⟩
  | config value =>
      cases value with
      | none => exact absurd h (by simp [State.resolve])
      | some value => exact give .config value ⟨settings, switches, .nothing⟩ t h hquiet

theorem react (switch : Switch) (value : String) : Indifferent (·.react switch value) :=
  resolve.andThen (give switch value)

/-- What is pending can be replaced. -/
theorem setPending (pending : Pending) : Indifferent fun s => .ok { s with pending } := by
  intro s t h hquiet
  obtain rfl := Except.ok.inj h
  exact ⟨hquiet, rfl⟩

theorem await : Indifferent State.await := resolve.andThen (setPending (.config none))

theorem addUri (uri : String) : Indifferent (·.addUri uri) := by
  have hrest := resolve.andThen (setPending (.uris [uri]))
  rintro ⟨settings, switches, pending⟩ t h hquiet
  cases pending with
  | nothing => exact hrest ⟨settings, switches, .nothing⟩ t h hquiet
  | uris texts =>
      exact setPending (.uris (texts ++ [uri])) ⟨settings, switches, .uris texts⟩ t h hquiet
  | config value => exact hrest ⟨settings, switches, .config value⟩ t h hquiet

theorem addPlain (text : String) : Indifferent (·.addPlain text) := by
  rintro ⟨settings, switches, pending⟩ t h hquiet
  by_cases hawaited : pending = .config none
  · subst hawaited
    exact setPending (.config (some text)) ⟨settings, switches, .config none⟩ t h hquiet
  · have hplain : ∀ s : State, s.pending = pending → s.addPlain text = s.addUri text := by
      rintro ⟨_, _, _⟩ rfl
      rw [State.addPlain]
      split
      · rename_i hp
        exact absurd hp hawaited
      · rfl
    dsimp only at h ⊢
    rw [hplain _ rfl] at h ⊢
    exact addUri text ⟨settings, switches, pending⟩ t h hquiet

theorem addLong (name : String) (value : Option String) : Indifferent (·.addLong name value) := by
  intro s t h hquiet
  simp only [State.addLong] at h ⊢
  generalize Switch.ofLong? name = switch? at h ⊢
  cases switch? with
  | none => exact absurd h (by simp)
  | some switch =>
      cases value with
      | none =>
          cases switch with
          | config => exact await s t h hquiet
          | _ => exact react _ "" s t h hquiet
      | some value =>
          cases switch with
          | config => exact react .config value s t h hquiet
          | _ => exact absurd h (by simp)

theorem addCluster (letters : List Char) : Indifferent (·.addCluster letters) := by
  induction letters with
  | nil => exact ok
  | cons c rest ih =>
      intro s t h hquiet
      simp only [State.addCluster] at h ⊢
      generalize Switch.ofShort? c = switch? at h ⊢
      cases switch? with
      | none => exact absurd h (by simp)
      | some switch =>
          cases switch with
          | config =>
              -- What follows the letter is its value, and the cluster ends.
              dsimp only at h ⊢
              split at h
              · exact await s t h hquiet
              · exact react .config _ s t h hquiet
              · exact react .config _ s t h hquiet
          | _ => exact (react _ "").andThen ih s t h hquiet

theorem add (text : String) : Indifferent (·.add text) := by
  intro s t h hquiet
  simp only [State.add] at h ⊢
  generalize Argument.ofText text = argument at h ⊢
  cases argument with
  | long name value => exact addLong name value s t h hquiet
  | cluster letters => exact addCluster letters s t h hquiet
  | plain => exact addPlain text s t h hquiet

theorem readUris (uris : List String) : Indifferent (CommandLine.readUris · uris) := by
  induction uris with
  | nil => exact ok
  | cons uri uris ih => exact (addUri uri).andThen ih

theorem readArguments (arguments : List String) :
    Indifferent (CommandLine.readArguments · arguments) := by
  induction arguments with
  | nil => exact ok
  | cons text arguments ih =>
      intro s t h hquiet
      simp only [CommandLine.readArguments] at h ⊢
      by_cases hhyphens : text = "--"
      · rw [if_pos hhyphens] at h ⊢
        exact readUris arguments s t h hquiet
      · rw [if_neg hhyphens] at h ⊢
        exact (add text).andThen ih s t h hquiet

end Indifferent

/-- The switch for a verbose run can be added in front of arguments that do not give it. -/
theorem parse_cons_verbose {arguments : List String} {given : Settings}
    (h : parse arguments = .ok given) (hquiet : given.verbose = false) :
    parse ("--verbose" :: arguments) = .ok given.verbosely := by
  rw [parse] at h ⊢
  have hswitch : readArguments default ("--verbose" :: arguments) =
      readArguments (State.verbosely default) arguments :=
    readArguments_of_add (by decide) rfl arguments
  rw [hswitch]
  cases hread : readArguments default arguments with
  | error e =>
      rw [hread] at h
      exact absurd h (by simp)
  | ok last =>
      rw [hread] at h
      dsimp only at h
      cases hlast : last.resolve with
      | error e =>
          rw [hlast] at h
          exact absurd h (by simp [Except.map])
      | ok done =>
          rw [hlast] at h
          obtain rfl := Except.ok.inj h
          obtain ⟨hbefore, hresolve⟩ := Indifferent.resolve last done hlast hquiet
          obtain ⟨-, hreads⟩ := Indifferent.readArguments arguments default last hread hbefore
          dsimp only at hreads ⊢
          rw [hreads]
          dsimp only
          rw [hresolve]
          rfl

end CommandLine
/-! ### Which events pass -/

namespace Log

/-- Whether an event comes from the program itself: its target begins with the program's name. -/
def Event.IsOwn (e : Event) : Prop := "fetch_get".toList <+: e.target.toList

namespace Filter

/-- The standard filters let the program's own events pass down to some level. -/
theorem passes_standard {e : Event} (h : e.IsOwn) (verbose : Bool) :
    (standard verbose).passes e = decide (e.level.rank ≤ if verbose then 4 else 3) := by
  have habout : ∀ rank, Directive.isAbout ⟨some "fetch_get", none, rank⟩ e = true := by
    intro rank
    rw [Directive.isAbout, Bool.and_true]
    exact List.isPrefixOf_iff_prefix.mpr h
  have hstandard : ∃ rest, standard verbose =
      ⟨some "fetch_get", none, if verbose then 4 else 3⟩ :: rest := by
    cases verbose with
    | false => exact ⟨[], rfl⟩
    | true => exact ⟨[⟨none, none, 3⟩], rfl⟩
  obtain ⟨rest, hrest⟩ := hstandard
  simp only [passes, hrest, List.find?_cons, habout]

/-- The standard filters are those of two instructions. -/
example : parse? "fetch_get=info" = some (standard false) ∧
    parse? "fetch_get=debug,info" = some (standard true) := by decide +kernel

/-- A filter does not look at the wording of an event. -/
theorem passes_congr (f : Filter) {e e' : Event} (hlevel : e.level = e'.level)
    (htarget : e.target = e'.target) (hfields : e.fields = e'.fields) :
    f.passes e = f.passes e' := by
  have habout : ∀ d : Directive, d.isAbout e = d.isAbout e' := by
    intro d
    simp only [Directive.isAbout, Directive.hasField, htarget, hfields]
  simp only [passes, habout, hlevel]

end Filter
end Log

/-! ### The events of a run -/

namespace Outcome

/-- The events that a run logs, whether they are shown or not. -/
def logged (o : Outcome) : List Log.Event := o.emissions.filterMap Emission.event?

/-- The lines of the events that are shown. -/
def logLines (time : String) (o : Outcome) : List String := o.events.map (o.logging.line time)

theorem events_eq_filter_logged (o : Outcome) :
    o.events = o.logged.filter o.logging.filter.passes := rfl

/-- The line of an event that is shown is told by the event and the form of the log. -/
theorem logLines_eq (time : String) (o : Outcome) :
    o.logLines time =
      o.events.map fun e => if o.logging.json then e.json time else e.compact time := by
  refine List.map_congr_left ?_
  intro e he
  rw [Logging.line, if_pos (List.mem_filter.mp he).2]

end Outcome

namespace Run

theorem filterMap_event?_log (events : List Log.Event) :
    (events.map Emission.log).filterMap Emission.event? = events := by
  rw [List.filterMap_map]
  exact List.filterMap_some

theorem event?_writeOf (pretty : Bool) (r : String × Settlement) :
    (writeOf pretty r).event? = none := by
  rw [writeOf]
  cases grantedLine? pretty r with
  | none => rfl
  | some line => rfl

/-- The events that a run logs after the one that tells the settings: that the URIs cannot be
used, or the details of each GET and then the results. -/
def eventsAfter (world : World) (s : Settings) : List Log.Event :=
  match s.validate with
  | .error e =>
    [⟨.error, "fetch_get", cross ++ "Configuration validation failed: " ++ e.message, []⟩]
  | .ok () =>
    (s.uris.flatMap fun uri => (world.get uri).events uri) ++
      s.uris.map fun uri => resultEvent (uri, (world.get uri).settlement)

/-- The switch for a verbose run changes none of them. -/
theorem eventsAfter_verbosely (world : World) (s : Settings) :
    eventsAfter world s.verbosely = eventsAfter world s := rfl

theorem logged_run {world : World} {arguments : List String} {s : Settings}
    (h : Resolves world.files world.env arguments s) :
    (run world arguments).logged = s.event :: eventsAfter world s := by
  rw [run_of_resolves world h, eventsAfter]
  cases s.validate with
  | error e => rfl
  | ok u =>
      have hresult : ∀ r : String × Settlement,
          [Emission.log (resultEvent r), writeOf s.pretty r].filterMap Emission.event? =
            [resultEvent r] := by
        intro r
        rw [List.filterMap_cons, List.filterMap_cons, event?_writeOf]
        rfl
      dsimp only
      rw [Outcome.logged, emissions_finish, List.filterMap_append, filterMap_event?_log,
        List.filterMap_flatMap]
      simp only [hresult]
      rw [← List.map_eq_flatMap, results, List.map_map, List.map_map, List.flatMap_map]
      rfl

/-- Every event that a run logs comes from the program itself. -/
theorem isOwn_of_mem_logged {world : World} {arguments : List String} {s : Settings}
    (h : Resolves world.files world.env arguments s) {e : Log.Event}
    (he : e ∈ (run world arguments).logged) : e.IsOwn := by
  have hown : ∀ target, "fetch_get".toList <+: target.toList → e.target = target → e.IsOwn := by
    rintro _ htarget rfl
    exact htarget
  have hresult : ∀ r : String × Settlement, (resultEvent r).target = "fetch_get" := by
    rintro ⟨uri, settlement⟩
    cases settlement with
    | ok payload => rfl
    | error e => cases e <;> rfl
  rw [logged_run h, eventsAfter] at he
  rcases List.mem_cons.mp he with rfl | he
  · exact hown "fetch_get" (by decide) rfl
  cases hvalid : s.validate with
  | error failure =>
      rw [hvalid] at he
      obtain rfl := List.mem_singleton.mp he
      exact hown "fetch_get" (by decide) rfl
  | ok u =>
      rw [hvalid] at he
      rcases List.mem_append.mp he with he | he
      · obtain ⟨uri, -, he⟩ := List.mem_flatMap.mp he
        rcases origin_of_mem_events he with ⟨-, htarget⟩ | ⟨-, htarget⟩
        · exact hown _ (by decide) htarget
        · exact hown _ (by decide) htarget
      · obtain ⟨uri, -, rfl⟩ := List.mem_map.mp he
        exact hown "fetch_get" (by decide) (hresult _)

end Run

/-! ### Runs with the switch and without it -/

namespace Settings

variable {files : FileReader} {env : Environment} {given s : Settings}

theorem verbose_of_resolve (h : given.resolve files env = .ok s) : s.verbose = given.verbose := by
  rcases resolve_eq_ok_iff.mp h with ⟨-, rfl⟩ | ⟨path, text, f, -, -, -, rfl⟩
  · rfl
  · rfl

/-- The switch is kept when settings are resolved, and changes nothing else. -/
theorem resolve_verbosely (h : given.resolve files env = .ok s) :
    given.verbosely.resolve files env = .ok s.verbosely := by
  rcases resolve_eq_ok_iff.mp h with ⟨hconfig, rfl⟩ | ⟨path, text, f, hconfig, htext, hf, rfl⟩
  · exact resolve_of_config_eq_none hconfig
  · exact resolve_eq_ok_iff.mpr (.inr ⟨path, text, f, hconfig, htext, hf, rfl⟩)

end Settings

namespace Run

/-- The switch can be added to arguments that come to settings without it. -/
theorem Resolves.verbosely {files : FileReader} {env : Environment} {arguments : List String}
    {s : Settings} (h : Resolves files env arguments s) (hquiet : s.verbose = false) :
    Resolves files env ("--verbose" :: arguments) s.verbosely := by
  obtain ⟨given, hparse, hresolve⟩ := h
  have hgiven : given.verbose = false := (Settings.verbose_of_resolve hresolve).symm.trans hquiet
  exact ⟨given.verbosely, CommandLine.parse_cons_verbose hparse hgiven,
    Settings.resolve_verbosely hresolve⟩

variable {world : World} {arguments arguments' : List String} {s : Settings}

/-- A run shows those of its events that pass its filter. -/
theorem events_run (h : Resolves world.files world.env arguments s) :
    (run world arguments).events =
      (s.event :: eventsAfter world s).filter (loggingOf world.env s).filter.passes := by
  rw [← logged_run h, ← logging_run h, Outcome.events_eq_filter_logged]

/-- Without a filter of the environment, a run shows its events down to some level. -/
theorem events_of_standard (h : Resolves world.files world.env arguments s)
    (hfree : (world.env "RUST_LOG").bind Log.Filter.parse? = none) :
    (run world arguments).events =
      (s.event :: eventsAfter world s).filter (·.level.rank ≤ if s.verbose then 4 else 3) := by
  have hfilter : (loggingOf world.env s).filter = Log.Filter.standard s.verbose := by
    rw [loggingOf, Log.Filter.choose, hfree]
    rfl
  rw [events_run h, hfilter, ← logged_run h]
  refine List.filter_congr ?_
  intro e he
  exact Log.Filter.passes_standard (isOwn_of_mem_logged h he) s.verbose

/-- A filter of the environment is the filter of the run, with the switch or without it. -/
theorem events_of_instruction (h : Resolves world.files world.env arguments s) {text : String}
    {filter : Log.Filter} (htext : world.env "RUST_LOG" = some text)
    (hparse : Log.Filter.parse? text = some filter) :
    (run world arguments).events = (s.event :: eventsAfter world s).filter filter.passes := by
  have hfilter : (loggingOf world.env s).filter = filter := by
    rw [loggingOf, Log.Filter.choose, htext, Option.bind_some, hparse]
    rfl
  rw [events_run h, hfilter]

/-- Without a filter of the environment nothing is shown in more detail than for debugging. -/
theorem level_ne_trace_of_mem_events (h : Resolves world.files world.env arguments s)
    (hfree : (world.env "RUST_LOG").bind Log.Filter.parse? = none) {e : Log.Event}
    (he : e ∈ (run world arguments).events) : e.level ≠ .trace := by
  intro htrace
  rw [events_of_standard h hfree] at he
  have hrank := (List.mem_filter.mp he).2
  rw [htrace] at hrank
  cases hverbose : s.verbose with
  | false => exact absurd hrank (by simp [hverbose, Level.rank])
  | true => exact absurd hrank (by simp [hverbose, Level.rank])

/-- Without a filter of the environment the verbose run shows what the other does, and events for
debugging. -/
theorem events_eq_filter_events (h : Resolves world.files world.env arguments s)
    (h' : Resolves world.files world.env arguments' s.verbosely) (hquiet : s.verbose = false)
    (hfree : (world.env "RUST_LOG").bind Log.Filter.parse? = none) :
    (run world arguments).events =
      (run world arguments').events.filter (·.level ≠ .debug) := by
  have hlevel : ∀ l : Level,
      decide (l.rank ≤ 3) = (decide (l ≠ .debug) && decide (l.rank ≤ 4)) := by
    intro l
    cases l <;> rfl
  -- The event of the settings, the only one that differs, is for debugging.
  rw [events_of_standard h hfree, events_of_standard h' hfree, eventsAfter_verbosely, hquiet,
    List.filter_filter, List.filter_cons_of_neg (by simp [Settings.event, Level.rank]),
    List.filter_cons_of_neg (by simp [Settings.event])]
  exact List.filter_congr fun e _ => hlevel e.level

/-- **The switch for a verbose run adds events for debugging to the log and nothing else.**  It
can be added to a command line that does not give it, and then stands in the settings.  Without a
filter of the environment, the lines of the log are among those of the verbose run, in the same
order; what the verbose run shows besides is for debugging, and neither run shows anything in more
detail.  With a filter of the environment both runs show the same events in the same order.  The
event of the settings is the first, if they show it, and tells which of the two runs it is. -/
theorem events_verbosely (h : Resolves world.files world.env arguments s)
    (hquiet : s.verbose = false) (time : String) :
    Resolves world.files world.env ("--verbose" :: arguments) s.verbosely ∧
    ∀ arguments', Resolves world.files world.env arguments' s.verbosely →
      ((world.env "RUST_LOG").bind Log.Filter.parse? = none →
        ((run world arguments).logLines time).Sublist ((run world arguments').logLines time) ∧
        (run world arguments).events =
          (run world arguments').events.filter (·.level ≠ .debug) ∧
        ∀ e ∈ (run world arguments).events ++ (run world arguments').events, e.level ≠ .trace) ∧
      ∀ text filter, world.env "RUST_LOG" = some text → Log.Filter.parse? text = some filter →
        (run world arguments).events =
          (if filter.passes s.event then [s.event] else []) ++
            (eventsAfter world s).filter filter.passes ∧
        (run world arguments').events =
          (if filter.passes s.event then [s.verbosely.event] else []) ++
            (eventsAfter world s).filter filter.passes := by
  refine ⟨h.verbosely hquiet, ?_⟩
  intro arguments' h'
  constructor
  · intro hfree
    have hfilter := events_eq_filter_events h h' hquiet hfree
    refine ⟨?_, hfilter, ?_⟩
    · rw [Outcome.logLines_eq, Outcome.logLines_eq, logging_run h, logging_run h', hfilter]
      exact List.filter_sublist.map _
    · intro e he
      rcases List.mem_append.mp he with he | he
      · exact level_ne_trace_of_mem_events h hfree he
      · exact level_ne_trace_of_mem_events h' hfree he
  · intro text filter htext hparse
    have hsame : filter.passes s.verbosely.event = filter.passes s.event :=
      Log.Filter.passes_congr filter rfl rfl rfl
    rw [events_of_instruction h htext hparse, events_of_instruction h' htext hparse,
      eventsAfter_verbosely, List.filter_cons, List.filter_cons, hsame]
    by_cases hpasses : filter.passes s.event = true
    · simp [hpasses]
    · simp [hpasses]

/-- The same world with a filter in its environment. -/
def filtering (filter : String) (world : World) : World :=
  { world with env := fun name => if name = "RUST_LOG" then some filter else world.env name }

/-- A GET without the switch and with it, and the same with a filter for debugging. -/
theorem events_verbosely_served :
    Resolves (serving "1").files (serving "1").env ["http://a/x"]
      ⟨["http://a/x"], none, false, false, false⟩ ∧
    (run (serving "1") ["http://a/x"]).events.map (·.level) = [.info] ∧
    (run (serving "1") ["http://a/x", "-v"]).events.map (·.level) =
      [.debug, .debug, .debug, .debug, .info] ∧
    ((run (serving "1") ["http://a/x"]).logLines "T").Sublist
      ((run (serving "1") ["http://a/x", "-v"]).logLines "T") ∧
    Log.Filter.parse? "debug" = some [⟨none, none, 4⟩] ∧
    (run (filtering "debug" (serving "1")) ["http://a/x"]).events.tail =
      (run (filtering "debug" (serving "1")) ["http://a/x", "-v"]).events.tail ∧
    (run (filtering "debug" (serving "1")) ["http://a/x", "-v"]).events.head? =
      some (Settings.event ⟨["http://a/x"], none, false, false, true⟩) := by
  have h : Resolves (serving "1").files (serving "1").env ["http://a/x"]
      ⟨["http://a/x"], none, false, false, false⟩ := ⟨_, rfl, rfl⟩
  have h' : Resolves (serving "1").files (serving "1").env ["http://a/x", "-v"]
      ⟨["http://a/x"], none, false, false, true⟩ := ⟨_, rfl, rfl⟩
  have hparse : Log.Filter.parse? "debug" = some [⟨none, none, 4⟩] := by decide +kernel
  have hplain := ((events_verbosely h rfl "T").2 _ h').1 rfl
  obtain ⟨hquiet, hloud⟩ := ((@events_verbosely (filtering "debug" (serving "1")) _ _ h rfl
    "T").2 _ h').2 "debug" _ rfl hparse
  have hshown : Log.Filter.passes [⟨none, none, 4⟩]
      (Settings.event ⟨["http://a/x"], none, false, false, false⟩) = true := rfl
  rw [if_pos hshown] at hquiet hloud
  refine ⟨h, by decide +kernel, by decide +kernel, hplain.1, hparse, ?_, ?_⟩
  · rw [hquiet, hloud]
    rfl
  · rw [hloud]
    rfl

end Run
end HttpGet
