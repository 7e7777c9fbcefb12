/-
The configuration file.

A file may set the URIs, whether payloads are printed pretty, and whether logs are JSON.
Each setting has a section of its own; the sections for output and logging may be absent,
and so may their flags.

A section is a table, or the list of its settings in order.  Of a table only the known
keys count; what other keys hold has no influence, as long as it can be read.  Keys are
looked at in increasing order, so the error that is reported is the first in that order.
-/
import HttpGet.Toml.Parser
import HttpGet.Toml.Excerpt

namespace HttpGet

/-- The section that says what to fetch. -/
structure FetchSection where
  uris : List String
deriving DecidableEq, Repr, Inhabited

/-- The section on output. -/
structure OutputSection where
  pretty : Option Bool
deriving DecidableEq, Repr, Inhabited

/-- The section on logging. -/
structure LoggingSection where
  json : Option Bool
deriving DecidableEq, Repr, Inhabited

/-- The settings of a configuration file. -/
structure FileConfig where
  fetch : FetchSection
  output : Option OutputSection
  logging : Option LoggingSection
deriving DecidableEq, Repr

/-- A file without settings. -/
instance : Inhabited FileConfig := ⟨⟨⟨[]⟩, none, none⟩⟩

namespace FileConfig

/-- Whether payloads are printed pretty. -/
def pretty (c : FileConfig) : Bool := ((c.output.bind (·.pretty)).getD false)

/-- Whether logs are JSON. -/
def logJson (c : FileConfig) : Bool := ((c.logging.bind (·.json)).getD false)

end FileConfig

namespace Toml

/-- Why a document does not hold a configuration: a number cannot be read, or the value
at a span has the wrong shape. -/
inductive Fault where
  | unreadableNumber
  | mismatch (span : Span) (reason : Mismatch)
deriving DecidableEq, Repr

/-- The fault of a value that is not what was expected. -/
def Tree.unexpected (t : Tree) (expected : String) : Fault :=
  match t.found? with
  | some found => .mismatch t.span (.kind found expected)
  | none => .unreadableNumber

/-- Read a text. -/
def Tree.asText : Tree → Except Fault String
  | .scalar _ (.text s) => .ok s
  | t => .error (t.unexpected "a string")

/-- Read a flag. -/
def Tree.asFlag : Tree → Except Fault Bool
  | .scalar _ (.flag b) => .ok b
  | t => .error (t.unexpected "a boolean")

/-- Read a list of texts. -/
def Tree.asTexts : Tree → Except Fault (List String)
  | .array _ items => items.mapM Tree.asText
  | t => .error (t.unexpected "a sequence")

/-- Read an entry whose key a record does not know. -/
def Tree.skip (t : Tree) : Except Fault Unit :=
  if t.readable then .ok () else .error .unreadableNumber

/-- Read the entries of a record in order: `known` tells how an entry changes what was
read so far, if the record knows its key. -/
def readEntries {α : Type} (known : String → Option (α → Tree → Except Fault α)) (start : α)
    (entries : List (String × Tree)) : Except Fault α :=
  entries.foldlM (fun acc e =>
    match known e.1 with
    | some read => read acc e.2
    | none => do e.2.skip; return acc) start

/-- Read the section that says what to fetch. -/
def Tree.asFetchSection : Tree → Except Fault FetchSection
  | .table _ entries =>
    readEntries (fun key =>
      if key = "uris" then some fun _ t => do return ⟨← t.asTexts⟩ else none) ⟨[]⟩ entries
  | .array _ [] => .ok ⟨[]⟩
  | .array _ (t :: _) => do return ⟨← t.asTexts⟩
  | .scalar _ .moment => .ok ⟨[]⟩
  | t => .error (t.unexpected "struct FetchSection")

/-- Read a section whose only setting, called `key`, is a flag. -/
def Tree.asFlagSection (name key : String) : Tree → Except Fault (Option Bool)
  | .table _ entries =>
    readEntries (fun k =>
      if k = key then some fun _ t => do return some (← t.asFlag) else none) none entries
  | .array span [] => .error (.mismatch span (.length 0 (Mismatch.recordOf name 1)))
  | .array _ (t :: _) => do return some (← t.asFlag)
  | .scalar _ .moment => .ok none
  | t => .error (t.unexpected ("struct " ++ name))

/-- Read the settings of a document's root table. -/
def asFileConfig (root : List (String × Tree)) : Except Fault FileConfig :=
  readEntries (fun key =>
    if key = "fetch" then some fun c t => do return { c with fetch := ← t.asFetchSection }
    else if key = "output" then some fun c t => do
      return { c with output := some ⟨← t.asFlagSection "OutputConfig" "pretty"⟩ }
    else if key = "logging" then some fun c t => do
      return { c with logging := some ⟨← t.asFlagSection "LoggingConfig" "json"⟩ }
    else none) default root

end Toml

namespace FileConfig

/-- The settings that a text holds. -/
def ofToml (text : String) : Except Toml.Error FileConfig :=
  match Toml.document? text with
  | none => .error .malformed
  | some root =>
    match Toml.asFileConfig root with
    | .ok config => .ok config
    | .error .unreadableNumber => .error .unreadableNumber
    | .error (.mismatch span reason) => .error (.mismatch (.ofSpan text span) reason)

end FileConfig
end HttpGet
