/-
Switches, and what the program says about its use.

An error message shows how the program is called.  It shows the general form, or the
switches that were used so far, followed by the URIs, or what there is to choose from.
-/
import HttpGet.Text.Similarity

namespace HttpGet.CommandLine

/-- The switches of the command line. -/
inductive Switch where
  | config
  | pretty
  | logJson
  | verbose
  | help
deriving DecidableEq, Repr

namespace Switch

/-- All switches, in the order in which they are listed. -/
def all : List Switch := [config, pretty, logJson, verbose, help]

/-- The long name of a switch. -/
def long : Switch → String
  | config => "config"
  | pretty => "pretty"
  | logJson => "log-json"
  | verbose => "verbose"
  | help => "help"

/-- The switch of a long name. -/
def ofLong? (name : String) : Option Switch := all.find? (·.long = name)

/-- The switch of a short name. -/
def ofShort? : Char → Option Switch
  | 'c' => some config
  | 'v' => some verbose
  | 'h' => some help
  | _ => none

/-- A switch as messages show it. -/
def shown : Switch → String
  | config => "--config <CONFIG>"
  | s => "--" ++ s.long

/-- The switch whose long name is most similar to a name, if one is similar enough; of
several, the one listed last. -/
def similarTo? (name : String) : Option Switch :=
  let rated := all.map fun s => (s, Similarity.ofWords name.toList s.long.toList)
  let near := rated.filter fun r => Similarity.share 7 10 < r.2
  (near.foldl (fun best? r =>
    match best? with
    | some best => if r.2 < best.2 then some best else some r
    | none => some r) none).map (·.1)

end Switch

/-- What has been used of the command line. -/
structure Used where
  switches : List Switch
  uris : Bool
deriving DecidableEq, Repr

/-- Nothing has been used. -/
instance : Inhabited Used := ⟨⟨[], false⟩⟩

namespace Used

/-- Add a switch. -/
def insert (u : Used) (s : Switch) : Used :=
  if u.switches.contains s then u else { u with switches := u.switches ++ [s] }

/-- How the program is called: in general, or with what has been used. -/
def usage (u : Used) : String :=
  if u.switches.isEmpty && !u.uris then "Usage: fetch-get [OPTIONS] [URIS]..."
  else "Usage: fetch-get" ++ String.join (u.switches.map fun s => " " ++ s.shown) ++
    (if u.uris then " <URIS>..." else " [URIS]...")

/-- The URIs and the switches, as what there is to choose from; asking for help is no part
of it. -/
def choices : String :=
  "<" ++ "|".intercalate ("URIS" :: (Switch.all.filter (· ≠ .help)).map Switch.shown) ++ ">"

/-- How the program is called with one more switch: by the switch alone if it is the first,
else by a choice among all that can be given, beside which only asking for help is told. -/
def usageWith (u : Used) (s : Switch) : String :=
  if u.switches.isEmpty && !u.uris then (u.insert s).usage
  else "Usage: fetch-get " ++ (if s = .help then "--help " else "") ++ choices

example : (Used.mk [.verbose] false).usageWith .pretty =
    "Usage: fetch-get <URIS|--config <CONFIG>|--pretty|--log-json|--verbose>" := by
  decide +kernel

end Used

/-- What the program says when it is asked for help. -/
def helpText : String := String.join ([
  "GET one or more URIs and print the decoded response body",
  "",
  Used.usage default,
  "",
  "Arguments:",
  "  [URIS]...  URIs to fetch; overrides fetch.uris from the config file",
  "",
  "Options:",
  "  -c, --config <CONFIG>  TOML config file",
  "      --pretty           Pretty-print JSON payloads",
  "      --log-json         Emit logs as JSON",
  "  -v, --verbose          Enable verbose output",
  "  -h, --help             Print help"].map (· ++ "\n"))

end HttpGet.CommandLine
