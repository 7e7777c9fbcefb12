/-
What a run reports.

Log events stand among what a run writes, and which of them show is settled by switches, by
files and by the environment.  Everything else that a run writes is in `writes`: one piece
for each URI, in order, and nothing before all URIs have been found usable.  It depends on
the URIs, on what their GETs come to and on the form of the payloads, and so do the requests
and the exit code.
-/
import HttpGet.Run
import HttpGet.Proofs.Layers
import HttpGet.Proofs.Validation

namespace HttpGet

/-! ### Writes -/

/-- Whether a piece of what a run writes is no log event. -/
def Emission.isWrite : Emission → Bool
  | log _ => false
  | _ => true

namespace Outcome

/-- What a run writes, in order, without its log events. -/
def writes (o : Outcome) : List Emission := o.emissions.filter Emission.isWrite

/-- Log events add nothing to standard output. -/
theorem stdout_eq_writes (o : Outcome) :
    o.stdout = String.join (o.writes.map Emission.onStdout) := by
  rw [stdout, writes]
  induction o.emissions with
  | nil => rfl
  | cons x xs ih =>
      rw [List.map_cons, String.join_cons, ih]
      cases x with
      | out text => rw [List.filter_cons_of_pos rfl, List.map_cons, String.join_cons]
      | err text => rw [List.filter_cons_of_pos rfl, List.map_cons, String.join_cons]
      | log e =>
          rw [List.filter_cons_of_neg Bool.false_ne_true]
          exact String.empty_append

theorem plainErrors_eq_writes (o : Outcome) :
    o.plainErrors = o.writes.filterMap Emission.plainErr? := by
  rw [plainErrors, writes]
  induction o.emissions with
  | nil => rfl
  | cons x xs ih =>
      rw [List.filterMap_cons, ih]
      cases x with
      | out text => rw [List.filter_cons_of_pos rfl, List.filterMap_cons]
      | err text => rw [List.filter_cons_of_pos rfl, List.filterMap_cons]
      | log e => rw [List.filter_cons_of_neg Bool.false_ne_true]; rfl

/-- Outcomes with the same writes, requests and exit code report the same. -/
theorem report_eq_of_writes_eq {o o' : Outcome} (hwrites : o.writes = o'.writes)
    (hrequests : o.requests = o'.requests) (hcode : o.exitCode = o'.exitCode) :
    o.stdout = o'.stdout ∧ o.requests = o'.requests ∧ o.exitCode = o'.exitCode ∧
      o.plainErrors = o'.plainErrors := by
  refine ⟨?_, hrequests, hcode, ?_⟩
  · rw [stdout_eq_writes, stdout_eq_writes, hwrites]
  · rw [plainErrors_eq_writes, plainErrors_eq_writes, hwrites]

end Outcome

/-! ### Results -/

/-- The line on standard output of a GET that is granted. -/
def grantedLine? (pretty : Bool) (r : String × Settlement) : Option String :=
  match r.2 with
  | .ok payload => some (payload.render pretty ++ "\n")
  | .error _ => none

/-- The line on standard error of a GET that fails: the status and the payload of a
rejection, and the URI and the message of any other error. -/
def failedLine? (pretty : Bool) (r : String × Settlement) : Option String :=
  match r.2 with
  | .ok _ => none
  | .error (.rejected status payload) =>
    some (toString status ++ " " ++ payload.render pretty ++ "\n")
  | .error e => some ("❌ " ++ r.1 ++ ": " ++ e.message ++ "\n")

namespace Batch

/-- The errors of a batch. -/
def failures (b : Batch) : List GetError :=
  b.filterMap fun r =>
    match r.2 with
    | .ok _ => none
    | .error e => some e

/-- The exit code of a batch is the greatest of its errors. -/
theorem exitCode_eq_max? (b : Batch) :
    b.exitCode = ((b.failures.map GetError.exitCode).max?).getD 0 := by
  induction b with
  | nil => rfl
  | cons r b ih =>
      obtain ⟨uri, settlement⟩ := r
      rw [exitCode_cons, ih]
      cases settlement with
      | ok payload => simp [codeOf, failures]
      | error e =>
          simp only [codeOf, failures, List.filterMap_cons, List.map_cons, List.max?_cons]
          cases (List.map GetError.exitCode (List.filterMap _ b)).max? with
          | none => simp
          | some n => rfl

end Batch

namespace Run

/-- The piece that is written for what the GET of a URI has come to. -/
def writeOf (pretty : Bool) (r : String × Settlement) : Emission :=
  match grantedLine? pretty r with
  | some line => .out line
  | none => .err ((failedLine? pretty r).getD "")

/-- A report is a log event and one piece that is written. -/
theorem filter_report (pretty : Bool) (r : String × Settlement) :
    (report pretty r.1 r.2).filter Emission.isWrite = [writeOf pretty r] := by
  obtain ⟨uri, settlement⟩ := r
  cases settlement with
  | ok payload => rfl
  | error e =>
      cases e with
      | rejected status payload => rfl
      | _ => rfl

/-- The results of the URIs of a run. -/
def results (exchanges : List (String × Exchange)) : Batch :=
  exchanges.map fun x => (x.1, x.2.settlement)

theorem writes_invalid (s : Settings) (logging : Logging) (e : GetError) :
    (invalid s logging e).writes = [.err (cross ++ e.message ++ "\n")] := rfl

theorem filter_events (events : List Log.Event) :
    (events.map Emission.log).filter Emission.isWrite = [] := by
  rw [List.filter_map, List.map_eq_nil_iff, List.filter_eq_nil_iff]
  intro e _
  exact Bool.false_ne_true

/-- A run that fetches writes one piece for each URI. -/
theorem writes_finish (s : Settings) (logging : Logging) (exchanges : List (String × Exchange)) :
    (finish s logging exchanges).writes = (results exchanges).map (writeOf s.pretty) := by
  have hevents : ((exchanges.flatMap fun x => (x.2.events x.1).map Emission.log)).filter
      Emission.isWrite = [] := by
    induction exchanges with
    | nil => rfl
    | cons x xs ih => rw [List.flatMap_cons, List.filter_append, filter_events, ih, List.nil_append]
  have hreports : ∀ b : Batch, (b.flatMap fun r => report s.pretty r.1 r.2).filter
      Emission.isWrite = b.map (writeOf s.pretty) := by
    intro b
    induction b with
    | nil => rfl
    | cons r b ih => rw [List.flatMap_cons, List.filter_append, filter_report, ih, List.map_cons,
        List.singleton_append]
  rw [Outcome.writes, finish]
  simp only [List.cons_append, List.filter_append, List.filter_cons, hevents]
  exact hreports _

theorem requests_finish (s : Settings) (logging : Logging)
    (exchanges : List (String × Exchange)) :
    (finish s logging exchanges).requests = exchanges.flatMap (·.2.requests) := rfl

theorem exitCode_finish (s : Settings) (logging : Logging)
    (exchanges : List (String × Exchange)) :
    (finish s logging exchanges).exitCode = (results exchanges).exitCode := rfl

theorem stdout_writeOf (pretty : Bool) (b : Batch) :
    String.join ((b.map (writeOf pretty)).map Emission.onStdout) =
      String.join (b.filterMap (grantedLine? pretty)) := by
  induction b with
  | nil => rfl
  | cons r b ih =>
      rw [List.map_cons, List.map_cons, String.join_cons, ih, List.filterMap_cons, writeOf]
      cases grantedLine? pretty r with
      | none => exact String.empty_append
      | some line => exact String.join_cons.symm

theorem plainErrors_writeOf (pretty : Bool) (b : Batch) :
    (b.map (writeOf pretty)).filterMap Emission.plainErr? = b.filterMap (failedLine? pretty) := by
  induction b with
  | nil => rfl
  | cons r b ih =>
      obtain ⟨uri, settlement⟩ := r
      rw [List.map_cons, List.filterMap_cons, List.filterMap_cons, ih]
      cases settlement with
      | ok payload => rfl
      | error e =>
          cases e with
          | rejected status payload => rfl
          | _ => rfl

/-! ### Runs with resolved settings -/

/-- The arguments can be read, and `s` are the settings that they come to. -/
def Resolves (files : FileReader) (env : Environment) (arguments : List String)
    (s : Settings) : Prop :=
  ∃ given, CommandLine.parse arguments = .ok given ∧ given.resolve files env = .ok s

/-- What is left of a run whose settings are resolved. -/
theorem run_of_resolves (world : World) {arguments : List String} {s : Settings}
    (h : Resolves world.files world.env arguments s) :
    run world arguments =
      match s.validate with
      | .error e => invalid s (loggingOf world.env s) e
      | .ok () => finish s (loggingOf world.env s) (s.uris.map fun uri => (uri, world.get uri)) := by
  obtain ⟨given, hparse, hresolve⟩ := h
  simp only [run, plan, hparse, hresolve]
  cases s.validate with
  | error e => rfl
  | ok u => rfl

/-- **How a run logs does not show in what it reports.**  Two runs that fetch the same URIs
and print in the same form have the same standard output, the same requests and the same
exit code, and write the same to standard error besides log events. -/
theorem report_eq_of_resolves {get : String → Exchange} {files files' : FileReader}
    {env env' : Environment} {arguments arguments' : List String} {s s' : Settings}
    (h : Resolves files env arguments s) (h' : Resolves files' env' arguments' s')
    (huris : s.uris = s'.uris) (hpretty : s.pretty = s'.pretty) :
    (run ⟨files, env, get⟩ arguments).stdout = (run ⟨files', env', get⟩ arguments').stdout ∧
    (run ⟨files, env, get⟩ arguments).requests = (run ⟨files', env', get⟩ arguments').requests ∧
    (run ⟨files, env, get⟩ arguments).exitCode = (run ⟨files', env', get⟩ arguments').exitCode ∧
    (run ⟨files, env, get⟩ arguments).plainErrors =
      (run ⟨files', env', get⟩ arguments').plainErrors := by
  rw [run_of_resolves ⟨files, env, get⟩ h, run_of_resolves ⟨files', env', get⟩ h',
    Settings.validate_congr huris]
  cases s'.validate with
  | error e =>
      refine Outcome.report_eq_of_writes_eq ?_ rfl rfl
      rw [writes_invalid, writes_invalid]
  | ok u =>
      rw [huris]
      refine Outcome.report_eq_of_writes_eq ?_ ?_ ?_
      · rw [writes_finish, writes_finish, hpretty]
      · rw [requests_finish, requests_finish]
      · rw [exitCode_finish, exitCode_finish]

/-- A run that shows every event as JSON reports what one that shows few as text does. -/
theorem report_eq_with_all_logs :
    (run ⟨fun _ => .error .missing, fun _ => none, Network.exchange [] .up⟩
        ["http://a/x"]).plainErrors =
      (run ⟨fun _ => .error .denied, fun _ => some "trace", Network.exchange [] .up⟩
        ["--log-json", "http://a/x", "-v"]).plainErrors := by
  have h : Resolves (fun _ => .error .missing) (fun _ => none) ["http://a/x"]
      ⟨["http://a/x"], none, false, false, false⟩ := ⟨_, rfl, rfl⟩
  have h' : Resolves (fun _ => .error .denied) (fun _ => some "trace")
      ["--log-json", "http://a/x", "-v"] ⟨["http://a/x"], none, false, true, true⟩ :=
    ⟨_, rfl, rfl⟩
  exact (report_eq_of_resolves h h' rfl rfl).2.2.2

/-! ### All runs -/

/-- The arguments, the configuration or the URIs are such that nothing is fetched. -/
inductive Refused (files : FileReader) (env : Environment) (arguments : List String) : Prop
  /-- The arguments cannot be read. -/
  | unreadable {failure : CommandLine.Failure} (h : CommandLine.parse arguments = .error failure)
  /-- The settings cannot be resolved. -/
  | unresolved {given : Settings} {e : GetError} (hparse : CommandLine.parse arguments = .ok given)
      (h : given.resolve files env = .error e)
  /-- There is no URI. -/
  | withoutUri {s : Settings} (hs : Resolves files env arguments s) (h : s.uris = [])
  /-- Some URI is blank. -/
  | blankUri {s : Settings} {uri : String} (hs : Resolves files env arguments s)
      (hmem : uri ∈ s.uris) (h : ∀ c ∈ uri.toList, isBlank c = true)

/-- The results of single GETs. -/
def singles (net : Network) (link : Link) (uris : List String) : Batch :=
  uris.map fun uri => (uri, (net.get link uri).1)

/-- An outcome reports what the GETs of the URIs have come to. -/
structure Reports (net : Network) (link : Link) (s : Settings) (o : Outcome) : Prop where
  stdout : o.stdout = String.join ((singles net link s.uris).filterMap (grantedLine? s.pretty))
  plainErrors : o.plainErrors = (singles net link s.uris).filterMap (failedLine? s.pretty)
  requests : o.requests = s.uris.flatMap fun uri => (net.get link uri).2
  exitCode : o.exitCode = (((singles net link s.uris).failures.map GetError.exitCode).max?).getD 0

theorem get_eq_exchange (net : Network) (link : Link) (uri : String) :
    net.get link uri = ((net.exchange link uri).settlement, (net.exchange link uri).requests) := by
  simp only [Network.get, Transport.fetch, Network.transport, Exchange.settlement, List.nil_append]
  cases (net.exchange link uri).response with
  | error e => rfl
  | ok response => rfl

theorem results_exchange (net : Network) (link : Link) (uris : List String) :
    results (uris.map fun uri => (uri, net.exchange link uri)) = singles net link uris := by
  rw [results, singles, List.map_map]
  refine List.map_congr_left ?_
  intro uri _
  rw [get_eq_exchange, Function.comp_apply]

/-- A run that fetches reports what the GETs of its URIs come to. -/
theorem reports_finish (net : Network) (link : Link) (s : Settings) (logging : Logging) :
    Reports net link s
      (finish s logging (s.uris.map fun uri => (uri, net.exchange link uri))) := by
  refine ⟨?_, ?_, ?_, ?_⟩
  · rw [Outcome.stdout_eq_writes, writes_finish, results_exchange, stdout_writeOf]
  · rw [Outcome.plainErrors_eq_writes, writes_finish, results_exchange, plainErrors_writeOf]
  · rw [requests_finish, List.flatMap_map]
    simp only [get_eq_exchange]
  · rw [exitCode_finish, results_exchange, Batch.exitCode_eq_max?]

/-- A run that is refused has nothing to report. -/
theorem run_of_refused (world : World) {arguments : List String}
    (hhelp : CommandLine.parse arguments ≠ .error .help)
    (h : Refused world.files world.env arguments) :
    (run world arguments).requests = [] ∧ (run world arguments).stdout = "" ∧
      (run world arguments).exitCode = 2 := by
  have hinvalid : ∀ s : Settings, Resolves world.files world.env arguments s →
      s.validate ≠ .ok () → (run world arguments).requests = [] ∧
        (run world arguments).stdout = "" ∧ (run world arguments).exitCode = 2 := by
    intro s hs hv
    rw [run_of_resolves world hs]
    cases hvalid : s.validate with
    | ok u => exact absurd hvalid hv
    | error e => exact ⟨rfl, rfl, Settings.exitCode_of_validate hvalid⟩
  cases h with
  | @unreadable failure hparse =>
      cases failure with
      | help => exact absurd hparse hhelp
      | _ =>
          rw [run, plan, hparse]
          exact ⟨rfl, rfl, rfl⟩
  | @unresolved given e hparse hresolve =>
      have hrun : run world arguments = ⟨[.err (cross ++ e.message ++ "\n")], .off, [], e.exitCode⟩ := by
        simp only [run, plan, hparse, hresolve]
      rw [hrun]
      exact ⟨rfl, rfl, Settings.exitCode_of_resolve hresolve⟩
  | @withoutUri s hs huris =>
      refine hinvalid s hs ?_
      intro hv
      exact (Settings.validate_eq_ok_iff.mp hv).1 huris
  | @blankUri s uri hs hmem hblank =>
      refine hinvalid s hs ?_
      intro hv
      exact (Settings.validate_eq_ok_iff.mp hv).2 uri hmem hblank

/-- **What a run comes to.**  Unless it is asked for help, a run is refused as a whole, with
no request, no output and the exit code 2, or it reports each of its GETs. -/
theorem run_refused_or_reports {arguments : List String}
    (hhelp : CommandLine.parse arguments ≠ .error .help) (files : FileReader) (env : Environment)
    (net : Network) (link : Link) :
    (Refused files env arguments →
      (run ⟨files, env, net.exchange link⟩ arguments).requests = [] ∧
      (run ⟨files, env, net.exchange link⟩ arguments).stdout = "" ∧
      (run ⟨files, env, net.exchange link⟩ arguments).exitCode = 2) ∧
    (¬ Refused files env arguments →
      ∃ s, Resolves files env arguments s ∧
        Reports net link s (run ⟨files, env, net.exchange link⟩ arguments)) := by
  constructor
  · intro h
    exact run_of_refused ⟨files, env, net.exchange link⟩ hhelp h
  · intro h
    cases hparse : CommandLine.parse arguments with
    | error failure => exact absurd (.unreadable hparse) h
    | ok given =>
        cases hresolve : given.resolve files env with
        | error e => exact absurd (.unresolved hparse hresolve) h
        | ok s =>
            have hs : Resolves files env arguments s := ⟨given, hparse, hresolve⟩
            have hvalid : s.validate = .ok () := by
              refine Settings.validate_eq_ok_iff.mpr ⟨?_, ?_⟩
              · intro huris
                exact h (.withoutUri hs huris)
              · intro uri hmem hblank
                exact h (.blankUri hs hmem hblank)
            refine ⟨s, hs, ?_⟩
            rw [run_of_resolves ⟨files, env, net.exchange link⟩ hs, hvalid]
            dsimp only
            exact reports_finish net link s (loggingOf env s)

/-- A blank URI keeps those before it from being fetched, and without it they are. -/
theorem run_refused_for_blank_second :
    (CommandLine.parse ["http://a/x", "\t\u2003"] ≠ .error .help ∧
      (run ⟨fun _ => .error .missing, fun _ => none, Network.exchange [] .up⟩
        ["http://a/x", "\t\u2003"]).requests = [] ∧
      (run ⟨fun _ => .error .missing, fun _ => none, Network.exchange [] .up⟩
        ["http://a/x", "\t\u2003"]).exitCode = 2) ∧
    CommandLine.parse ["http://a/x"] ≠ .error .help ∧
      ∃ s, Resolves (fun _ => .error .missing) (fun _ => none) ["http://a/x"] s ∧
        Reports [] .up s (run ⟨fun _ => .error .missing, fun _ => none, Network.exchange [] .up⟩
          ["http://a/x"]) := by
  constructor
  · have hparse : CommandLine.parse ["http://a/x", "\t\u2003"] =
        .ok ⟨["http://a/x", "\t\u2003"], none, false, false, false⟩ := rfl
    have hhelp : CommandLine.parse ["http://a/x", "\t\u2003"] ≠ .error .help := by
      rw [hparse]
      simp
    have hblank : Refused (fun _ => .error .missing) (fun _ => none) ["http://a/x", "\t\u2003"] := by
      refine .blankUri (s := ⟨["http://a/x", "\t\u2003"], none, false, false, false⟩)
        ⟨_, hparse, rfl⟩ (List.mem_cons_of_mem _ List.mem_cons_self) ?_
      exact isBlankText_iff.mp (by decide +kernel)
    have hrun := (run_refused_or_reports hhelp (fun _ => .error .missing) (fun _ => none) [] .up).1
      hblank
    exact ⟨hhelp, hrun.1, hrun.2.2⟩
  · have hparse : CommandLine.parse ["http://a/x"] =
        .ok ⟨["http://a/x"], none, false, false, false⟩ := rfl
    have hhelp : CommandLine.parse ["http://a/x"] ≠ .error .help := by
      rw [hparse]
      simp
    have hs : ∀ s, Resolves (fun _ => .error .missing) (fun _ => none) ["http://a/x"] s →
        s.uris = ["http://a/x"] := by
      rintro s ⟨given, hgiven, hresolve⟩
      obtain rfl := Except.ok.inj (hparse.symm.trans hgiven)
      rw [← Except.ok.inj hresolve]
      rfl
    refine ⟨hhelp,
      (run_refused_or_reports hhelp (fun _ => .error .missing) (fun _ => none) [] .up).2 ?_⟩
    intro hrefused
    cases hrefused with
    | unreadable h => exact absurd (hparse.symm.trans h) (by simp)
    | unresolved hgiven h =>
        obtain rfl := Except.ok.inj (hparse.symm.trans hgiven)
        exact absurd h (by simp [Settings.resolve])
    | @withoutUri s hres h => exact absurd ((hs s hres).symm.trans h) (by simp)
    | @blankUri s uri hres hmem h =>
        rw [hs s hres] at hmem
        obtain rfl := List.mem_singleton.mp hmem
        exact absurd (isBlankText_iff.mpr h) (by decide +kernel)

end Run
end HttpGet
