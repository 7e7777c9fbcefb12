/-
A run of the program.

A run reads its arguments, resolves its settings, fetches each URI in order, and then
reports what each has come to: the payload of a response that grants its request goes to
standard output, everything else to standard error.

A run as a whole is a value: what it writes, in order, what it has asked for, and its exit
code.  Log events stand in their place among what is written; which of them are shown, and
how, is decided only when the standard error is put together.
-/
import HttpGet.CommandLine.Parser
import HttpGet.Config.Resolution
import HttpGet.Log.Filter
import HttpGet.Network

namespace HttpGet

/-- What surrounds a run: the files, the environment, and what a GET brings. -/
structure World where
  files : FileReader
  env : Environment
  get : String → Exchange

/-- A piece of what a run writes. -/
inductive Emission where
  /-- Text on standard output. -/
  | out (text : String)
  /-- Text on standard error. -/
  | err (text : String)
  /-- A log event, which may show on standard error. -/
  | log (event : Log.Event)
deriving DecidableEq, Repr

/-- How log events are shown. -/
structure Logging where
  json : Bool
  filter : Log.Filter
deriving DecidableEq, Repr

/-- What a run comes to. -/
structure Outcome where
  emissions : List Emission
  logging : Logging
  requests : List String
  exitCode : Nat
deriving DecidableEq, Repr

namespace Logging

/-- No event is shown. -/
def off : Logging := ⟨false, []⟩

/-- The line of an event; a hidden event has none. -/
def line (l : Logging) (time : String) (e : Log.Event) : String :=
  if l.filter.passes e then (if l.json then e.json time else e.compact time) else ""

end Logging

namespace Emission

/-- What a piece adds to standard output. -/
def onStdout : Emission → String
  | out text => text
  | _ => ""

/-- What a piece adds to standard error. -/
def onStderr (l : Logging) (time : String) : Emission → String
  | out _ => ""
  | err text => text
  | log e => l.line time e

/-- The text of a piece, if it is no log event and goes to standard error. -/
def plainErr? : Emission → Option String
  | err text => some text
  | _ => none

/-- The event of a piece. -/
def event? : Emission → Option Log.Event
  | log e => some e
  | _ => none

end Emission

namespace Outcome

/-- The standard output of a run. -/
def stdout (o : Outcome) : String := String.join (o.emissions.map Emission.onStdout)

/-- The standard error of a run; `time` stands at the beginning of each log line. -/
def stderr (time : String) (o : Outcome) : String :=
  String.join (o.emissions.map (Emission.onStderr o.logging time))

/-- The events of a run that are shown. -/
def events (o : Outcome) : List Log.Event :=
  (o.emissions.filterMap Emission.event?).filter o.logging.filter.passes

/-- What a run writes to standard error besides log events. -/
def plainErrors (o : Outcome) : List String := o.emissions.filterMap Emission.plainErr?

end Outcome

/-! ### Events -/

namespace Settings

/-- The settings as a log event shows them. -/
def describe (s : Settings) : String :=
  let flag (b : Bool) := if b then "true" else "false"
  "CliConfig \x7b uris: [" ++ ", ".intercalate (s.uris.map Quoted.encode) ++ "], config: " ++
    (match s.config with
    | none => "None"
    | some path => "Some(" ++ Quoted.encode path ++ ")") ++
    ", pretty: " ++ flag s.pretty ++ ", log_json: " ++ flag s.logJson ++
    ", verbose: " ++ flag s.verbose ++ " \x7d"

/-- The event that shows the settings of a run. -/
def event (s : Settings) : Log.Event := ⟨.debug, "fetch_get", "CLI config: " ++ s.describe, []⟩

end Settings

namespace Exchange

/-- The target of events about requests and responses. -/
def target : String := "fetch_get::adapters::http"

/-- The events of the GET of a URI. -/
def events (uri : String) (e : Exchange) : List Log.Event :=
  let of := ("uri", Log.Value.quoted uri)
  ⟨.debug, target, "HTTP GET start", [of]⟩ ::
    match e.arrival with
    | .error _ => []
    | .ok a =>
      let status := ("status", Log.Value.number a.status)
      (if a.url.write = uri then []
        else [⟨.debug, target, "followed redirect", [of, ("final_url", .plain a.url.write)]⟩]) ++
      match a.body with
      | .error _ => []
      | .ok body =>
        [⟨.debug, target, "HTTP GET complete", [of, status, ("bytes", .number body.utf8ByteSize)]⟩,
          ⟨.trace, "fetch_get::core::fetcher", "settling response", [of, status]⟩]

/-- What a GET comes to. -/
def settlement (e : Exchange) : Settlement :=
  match e.response with
  | .ok response => response.settle
  | .error error => .error (.transport error)

end Exchange

/-! ### Runs -/

namespace Run

/-- What marks a failure. -/
def cross : String := "❌ "

/-- Report what the GET of a URI has come to. -/
def report (pretty : Bool) (uri : String) : Settlement → List Emission
  | .ok payload =>
    [.log ⟨.info, "fetch_get", "resolved", [("uri", .plain uri)]⟩,
      .out (payload.render pretty ++ "\n")]
  | .error (.rejected status payload) =>
    [.log ⟨.warn, "fetch_get", "rejected", [("uri", .plain uri), ("status", .number status)]⟩,
      .err (toString status ++ " " ++ payload.render pretty ++ "\n")]
  | .error e =>
    [.log ⟨.error, "fetch_get", cross ++ e.message, [("uri", .plain uri)]⟩,
      .err (cross ++ uri ++ ": " ++ e.message ++ "\n")]

/-- How the events of a run with given settings are shown. -/
def loggingOf (env : Environment) (s : Settings) : Logging :=
  ⟨s.logJson, Log.Filter.choose (env "RUST_LOG") s.verbose⟩

/-- What is left to do when the settings have been looked at: nothing, or to fetch their
URIs. -/
inductive Plan where
  | finished (outcome : Outcome)
  | fetch (settings : Settings) (logging : Logging)

/-- The end of a run whose settings are not valid. -/
def invalid (s : Settings) (logging : Logging) (e : GetError) : Outcome where
  emissions := [.log s.event,
    .log ⟨.error, "fetch_get", cross ++ "Configuration validation failed: " ++ e.message, []⟩,
    .err (cross ++ e.message ++ "\n")]
  logging
  requests := []
  exitCode := e.exitCode

/-- Look at the arguments and settle what is to be done. -/
def plan (files : FileReader) (env : Environment) (arguments : List String) : Plan :=
  match CommandLine.parse arguments with
  | .error .help => .finished ⟨[.out CommandLine.helpText], .off, [], 0⟩
  | .error failure => .finished ⟨[.err failure.message], .off, [], failure.exitCode⟩
  | .ok settings =>
    match settings.resolve files env with
    | .error e => .finished ⟨[.err (cross ++ e.message ++ "\n")], .off, [], e.exitCode⟩
    | .ok settings =>
      match settings.validate with
      | .error e => .finished (invalid settings (loggingOf env settings) e)
      | .ok () => .fetch settings (loggingOf env settings)

/-- Report the exchanges of the URIs of a run. -/
def finish (s : Settings) (logging : Logging) (exchanges : List (String × Exchange)) : Outcome :=
  let results : Batch := exchanges.map fun x => (x.1, x.2.settlement)
  { emissions :=
      .log s.event :: (exchanges.flatMap fun x => (x.2.events x.1).map Emission.log) ++
        results.flatMap fun r => report s.pretty r.1 r.2
    logging
    requests := exchanges.flatMap (·.2.requests)
    exitCode := results.exitCode }

/-- Run with the arguments of the command line. -/
def run (world : World) (arguments : List String) : Outcome :=
  match plan world.files world.env arguments with
  | .finished outcome => outcome
  | .fetch settings logging =>
    finish settings logging (settings.uris.map fun uri => (uri, world.get uri))

/-- Run with the arguments of the command line, where a GET may have effects. -/
def runWith {m : Type → Type} [Monad m] (files : FileReader) (env : Environment)
    (get : String → m Exchange) (arguments : List String) : m Outcome :=
  match plan files env arguments with
  | .finished outcome => return outcome
  | .fetch settings logging => do
    let exchanges ← settings.uris.mapM fun uri => do return (uri, ← get uri)
    return finish settings logging exchanges

end Run
end HttpGet
