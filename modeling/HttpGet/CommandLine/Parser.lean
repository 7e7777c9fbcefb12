/-
Reading the command line.

An argument is a switch with two hyphens, a cluster of one-letter switches after one hyphen,
or a URI; a hyphen alone is a URI, and so is everything after two hyphens alone.  The value
of `--config` follows an equals sign, or ends a cluster, or is the next argument unless that
is a switch.  No switch may be given twice.

A value that is the next argument counts only once something else begins: until then it is
pending, and so are the URIs since the last switch.  This decides which of two errors is
reported.
-/
import HttpGet.CommandLine.Usage
import HttpGet.Config.Settings
import HttpGet.Text.Terminal

namespace HttpGet.CommandLine

/-- Why the arguments do not tell what to do. -/
inductive Failure where
  /-- Help is asked for. -/
  | help
  /-- A switch lacks its value. -/
  | valueMissing (switch : Switch)
  /-- A switch is given twice. -/
  | repeated (switch : Switch)
  /-- A switch without value is given one, after what was used before it. -/
  | unneededValue (switch : Switch) (value : String) (used : Used)
  /-- There is no such switch; a similar one may have been meant. -/
  | unknown (argument : String) (similar : Option Switch) (used : Used)
deriving DecidableEq, Repr

/-- What has been begun and does not count yet. -/
inductive Pending where
  | nothing
  | uris (texts : List String)
  | config (value : Option String)
deriving DecidableEq, Repr

/-- How far the arguments have been read. -/
structure State where
  settings : Settings
  switches : List Switch
  pending : Pending
deriving DecidableEq, Repr

/-- Nothing has been read. -/
instance : Inhabited State := ⟨⟨default, [], .nothing⟩⟩

namespace State

/-- What has been used so far, without what is pending. -/
def used (s : State) : Used := ⟨s.switches, !s.settings.uris.isEmpty⟩

/-- Give a switch, whose value, if it takes one, is `value`. -/
def give (s : State) (switch : Switch) (value : String) : Except Failure State :=
  if s.switches.contains switch then .error (.repeated switch)
  else
    let s := { s with switches := s.switches ++ [switch] }
    match switch with
    | .config => .ok { s with settings := { s.settings with config := some value } }
    | .pretty => .ok { s with settings := { s.settings with pretty := true } }
    | .logJson => .ok { s with settings := { s.settings with logJson := true } }
    | .verbose => .ok { s with settings := { s.settings with verbose := true } }
    | .help => .error .help

/-- Let count what is pending. -/
def resolve (s : State) : Except Failure State :=
  let done := { s with pending := .nothing }
  match s.pending with
  | .nothing => .ok done
  | .uris texts =>
    .ok { done with settings := { s.settings with uris := s.settings.uris ++ texts } }
  | .config none => .error (.valueMissing .config)
  | .config (some value) => done.give .config value

/-- Let count what is pending, and leave it out if it cannot count; a switch that is given
twice then counts as not given. -/
def settle (s : State) : State :=
  match s.resolve with
  | .ok s => s
  | .error (.repeated switch) =>
    { s with switches := s.switches.filter (· ≠ switch), pending := .nothing }
  | .error _ => { s with pending := .nothing }

/-- Give a switch after what is pending. -/
def react (s : State) (switch : Switch) (value : String) : Except Failure State :=
  match s.resolve with
  | .ok s => s.give switch value
  | .error e => .error e

/-- Begin a switch whose value is the next argument. -/
def await (s : State) : Except Failure State :=
  match s.resolve with
  | .ok s => .ok { s with pending := .config none }
  | .error e => .error e

/-- Add a URI. -/
def addUri (s : State) (uri : String) : Except Failure State :=
  match s.pending with
  | .uris texts => .ok { s with pending := .uris (texts ++ [uri]) }
  | _ =>
    match s.resolve with
    | .ok s => .ok { s with pending := .uris [uri] }
    | .error e => .error e

/-- Read an argument that is no switch: the value that is awaited, or a URI. -/
def addPlain (s : State) (text : String) : Except Failure State :=
  match s.pending with
  | .config none => .ok { s with pending := .config (some text) }
  | _ => s.addUri text

/-- Read a switch with two hyphens. -/
def addLong (s : State) (name : String) (value : Option String) : Except Failure State :=
  match Switch.ofLong? name, value with
  | some .config, some value => s.react .config value
  | some .config, none => s.await
  | some switch, some value => .error (.unneededValue switch value s.used)
  | some switch, none => s.react switch ""
  | none, _ =>
    let similar := Switch.similarTo? name
    let used := similar.toList.foldl Used.insert s.settle.used
    .error (.unknown ("--" ++ name) similar used)

/-- Read a cluster of one-letter switches. -/
def addCluster (s : State) : List Char → Except Failure State
  | [] => .ok s
  | c :: rest =>
    match Switch.ofShort? c with
    | some .config =>
      match rest with
      | [] => s.await
      | '=' :: value => s.react .config (String.ofList value)
      | value => s.react .config (String.ofList value)
    | some switch =>
      match s.react switch "" with
      | .ok s => s.addCluster rest
      | .error e => .error e
    | none => .error (.unknown (String.ofList ['-', c]) none default)

end State

/-- What an argument is by its look. -/
inductive Argument where
  | long (name : String) (value : Option String)
  | cluster (letters : List Char)
  | plain
deriving DecidableEq, Repr

/-- What an argument is by its look. -/
def Argument.ofText (text : String) : Argument :=
  match text.toList with
  | '-' :: '-' :: rest =>
    .long (String.ofList (rest.takeWhile (· ≠ '=')))
      (match rest.dropWhile (· ≠ '=') with
      | [] => none
      | _ :: value => some (String.ofList value))
  | '-' :: c :: rest => .cluster (c :: rest)
  | _ => .plain

/-- Read an argument other than two hyphens alone. -/
def State.add (s : State) (text : String) : Except Failure State :=
  match Argument.ofText text with
  | .long name value => s.addLong name value
  | .cluster letters => s.addCluster letters
  | .plain => s.addPlain text

/-- Read URIs. -/
def readUris (s : State) : List String → Except Failure State
  | [] => .ok s
  | uri :: rest =>
    match s.addUri uri with
    | .ok s => readUris s rest
    | .error e => .error e

/-- Read arguments. -/
def readArguments (s : State) : List String → Except Failure State
  | [] => .ok s
  | text :: rest =>
    if text = "--" then readUris s rest
    else match s.add text with
      | .ok s => readArguments s rest
      | .error e => .error e

/-- The settings of the command line. -/
def parse (arguments : List String) : Except Failure Settings :=
  match readArguments default arguments with
  | .error e => .error e
  | .ok s => s.resolve.map (·.settings)

namespace Failure

/-- What is said after everything else. -/
def hint : String := "\n\nFor more information, try '--help'.\n"

/-- What is wrong, in one line.  Of the arguments a message tells what a terminal shows. -/
def reason : Failure → String
  | help => ""
  | valueMissing s => "a value is required for '" ++ s.shown ++ "' but none was supplied"
  | repeated s => "the argument '" ++ s.shown ++ "' cannot be used multiple times"
  | unneededValue s value _ =>
    "unexpected value '" ++ Terminal.shown value ++ "' for '" ++ s.shown ++
      "' found; no more were expected"
  | unknown argument _ _ => "unexpected argument '" ++ Terminal.shown argument ++ "' found"

/-- What might help. -/
def advice : Failure → String
  | unknown argument none _ =>
    let shown := Terminal.shown argument
    "\n\n  tip: to pass '" ++ shown ++ "' as a value, use '-- " ++ shown ++ "'"
  | unknown _ (some s) _ => "\n\n  tip: a similar argument exists: '--" ++ s.long ++ "'"
  | _ => ""

/-- How the program is called; a missing value does not ask for it. -/
def usage : Failure → String
  | help => ""
  | valueMissing _ => ""
  | repeated _ => "\n\n" ++ Used.usage default
  | unneededValue s _ used => "\n\n" ++ used.usageWith s
  | unknown _ _ used => "\n\n" ++ used.usage

/-- All that the program says. -/
def message : Failure → String
  | help => helpText
  | f => "error: " ++ f.reason ++ f.advice ++ f.usage ++ hint

/-- The exit code: asking for help is no error. -/
def exitCode : Failure → Nat
  | help => 0
  | _ => 2

end Failure
end HttpGet.CommandLine
