/-
The JSON forms of configurations.

A configuration is written as an object of its fields in a fixed order, with null for what
is absent.  It is read from such an object, in any order and with any other members, or
from the list of its fields.  A field that may be absent need not be given in an object; in
a list only the fields with a default may be left off at the end.
-/
import HttpGet.Config.Settings
import HttpGet.Json.Record

namespace HttpGet

namespace Json

/-- A field that is kept as an option in the draft until it is read. -/
def Field.ofReader {σ β : Type} (name : String) (value : Reader β) (get : σ → Option β)
    (set : σ → β → σ) (default? : Option β) : Field σ where
  name
  read draft s := (value s).map fun p => (set draft p.1, p.2)
  isSet draft := (get draft).isSome
  omitted draft := default?.map (set draft)

/-- A value that is null if absent. -/
def ofOption {α : Type} (value : α → Json) : Option α → Json
  | none => .null
  | some x => value x

/-- A list of texts. -/
def ofTexts (texts : List String) : Json := .array (texts.map .text)

end Json

/-! ### Configuration files -/

namespace FetchSection

/-- The JSON form of the section. -/
def toJson (s : FetchSection) : Json := .object [("uris", .ofTexts s.uris)]

/-- The section as a record. -/
def record : Json.Record (Option (List String)) FetchSection where
  name := "FetchSection"
  fields := [.ofReader "uris" (Json.readList Json.readTextValue) id (fun _ uris => some uris)
    (some [])]
  start := none
  finish draft := .ok ⟨draft.getD []⟩

end FetchSection

/-- A record whose only field is a flag that may be absent. -/
def flagRecord {α : Type} (name field : String) (make : Option Bool → α) :
    Json.Record (Option (Option Bool)) α where
  name
  fields := [.ofReader field (Json.readOptional Json.readFlag) id (fun _ flag => some flag) none]
  start := none
  finish draft := .ok (make draft.join)

namespace OutputSection

/-- The JSON form of the section. -/
def toJson (s : OutputSection) : Json := .object [("pretty", .ofOption .flag s.pretty)]

/-- The section as a record. -/
def record : Json.Record (Option (Option Bool)) OutputSection :=
  flagRecord "OutputConfig" "pretty" OutputSection.mk

end OutputSection

namespace LoggingSection

/-- The JSON form of the section. -/
def toJson (s : LoggingSection) : Json := .object [("json", .ofOption .flag s.json)]

/-- The section as a record. -/
def record : Json.Record (Option (Option Bool)) LoggingSection :=
  flagRecord "LoggingConfig" "json" LoggingSection.mk

end LoggingSection

namespace FileConfig

/-- The JSON form of a configuration file. -/
def toJson (c : FileConfig) : Json :=
  .object [("fetch", c.fetch.toJson), ("output", .ofOption OutputSection.toJson c.output),
    ("logging", .ofOption LoggingSection.toJson c.logging)]

/-- The sections read so far. -/
structure Draft where
  fetch : Option FetchSection
  output : Option (Option OutputSection)
  logging : Option (Option LoggingSection)

/-- A configuration file as a record. -/
def record : Json.Record Draft FileConfig where
  name := "TomlConfig"
  fields := [
    .ofReader "fetch" FetchSection.record.read Draft.fetch
      (fun d section' => { d with fetch := some section' }) (some ⟨[]⟩),
    .ofReader "output" (Json.readOptional OutputSection.record.read) Draft.output
      (fun d section' => { d with output := some section' }) none,
    .ofReader "logging" (Json.readOptional LoggingSection.record.read) Draft.logging
      (fun d section' => { d with logging := some section' }) none]
  start := ⟨none, none, none⟩
  finish d := .ok ⟨d.fetch.getD ⟨[]⟩, d.output.join, d.logging.join⟩

/-- The configuration that a JSON text holds. -/
def ofJsonText (text : String) : Except Json.Error FileConfig := Json.readText record.read text

end FileConfig

/-! ### Settings -/

namespace Settings

/-- The JSON form of settings. -/
def toJson (s : Settings) : Json :=
  .object [("uris", .ofTexts s.uris), ("config", .ofOption .text s.config),
    ("pretty", .flag s.pretty), ("log_json", .flag s.logJson), ("verbose", .flag s.verbose)]

/-- The fields read so far. -/
structure Draft where
  uris : Option (List String)
  config : Option (Option String)
  pretty : Option Bool
  logJson : Option Bool
  verbose : Option Bool

/-- A field that has to be given. -/
def required {α : Type} (name : String) : Option α → Except Mismatch α
  | some x => .ok x
  | none => .error (.missing name)

/-- Settings as a record. -/
def record : Json.Record Draft Settings where
  name := "CliConfig"
  fields := [
    .ofReader "uris" (Json.readList Json.readTextValue) Draft.uris
      (fun d x => { d with uris := some x }) none,
    .ofReader "config" (Json.readOptional Json.readTextValue) Draft.config
      (fun d x => { d with config := some x }) none,
    .ofReader "pretty" Json.readFlag Draft.pretty (fun d x => { d with pretty := some x }) none,
    .ofReader "log_json" Json.readFlag Draft.logJson (fun d x => { d with logJson := some x }) none,
    .ofReader "verbose" Json.readFlag Draft.verbose (fun d x => { d with verbose := some x }) none]
  start := ⟨none, none, none, none, none⟩
  finish d := do
    return {
      uris := ← required "uris" d.uris
      config := d.config.join
      pretty := ← required "pretty" d.pretty
      logJson := ← required "log_json" d.logJson
      verbose := ← required "verbose" d.verbose }

/-- The settings that a JSON text holds. -/
def ofJsonText (text : String) : Except Json.Error Settings := Json.readText record.read text

end Settings
end HttpGet
