/-
Settings.

The settings of a run come from the command line and from a configuration file.  The URIs
of the command line take the place of those of the file; a flag is on if either turns it
on; the rest is for the command line alone.

Before anything is fetched there has to be a URI, and none may be blank.
-/
import HttpGet.Config.File
import HttpGet.GetError
import HttpGet.Text.Blank

namespace HttpGet

/-- The settings of a run. -/
structure Settings where
  uris : List String
  config : Option String
  pretty : Bool
  logJson : Bool
  verbose : Bool
deriving DecidableEq, Repr

/-- No settings. -/
instance : Inhabited Settings := ⟨⟨[], none, false, false, false⟩⟩

/-- A value that may not be blank. -/
def requireText (field value : String) : Except GetError Unit :=
  if isBlankText value then
    .error (.invalidValue field value "Value cannot be empty or whitespace-only")
  else .ok ()

/-- URIs of which none may be blank: the first blank one, counted from `i`, is the error. -/
def requireTexts (field : String) : (i : Nat) → List String → Except GetError Unit
  | _, [] => .ok ()
  | i, uri :: uris =>
    match requireText (field ++ "[" ++ toString i ++ "]") uri with
    | .error e => .error e
    | .ok () => requireTexts field (i + 1) uris

/-- The URIs of a file are given and not blank. -/
def FileConfig.validate (c : FileConfig) : Except GetError Unit :=
  requireTexts "fetch.uris" 0 c.fetch.uris

namespace Settings

/-- The settings of the command line over those of a file. -/
def merge (s : Settings) (file : FileConfig) : Settings :=
  { s with
    uris := if s.uris.isEmpty then file.fetch.uris else s.uris
    pretty := s.pretty || file.pretty
    logJson := s.logJson || file.logJson }

/-- There is a URI, and none is blank. -/
def validate (s : Settings) : Except GetError Unit :=
  if s.uris.isEmpty then
    .error (.configuration "No URI given on the command line or in fetch.uris")
  else requireTexts "uris" 0 s.uris

end Settings
end HttpGet
