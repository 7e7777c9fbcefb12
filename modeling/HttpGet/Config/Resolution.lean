/-
Resolving the settings of a run.

If the command line names a configuration file, the file is read, its placeholders are
replaced by environment variables, and its settings stand below those of the command line.
-/
import HttpGet.Config.Directory
import HttpGet.Config.Settings
import HttpGet.Config.Substitution

namespace HttpGet

namespace FileConfig

/-- The settings of a text after its placeholders are replaced. -/
def ofText (env : Environment) (text : String) : Except GetError FileConfig :=
  match ofToml (substitute env text) with
  | .ok config => .ok config
  | .error e => .error (.toml e)

/-- The settings of the file at a path. -/
def load (files : FileReader) (env : Environment) (path : String) : Except GetError FileConfig :=
  match files path with
  | .ok text => ofText env text
  | .error e =>
    .error (.configuration ("Failed to read config file " ++ path ++ ": " ++ e.message))

end FileConfig

namespace Settings

/-- The settings of the command line over those of the file that it names. -/
def resolve (files : FileReader) (env : Environment) (s : Settings) : Except GetError Settings :=
  match s.config with
  | none => .ok (s.merge default)
  | some path => (FileConfig.load files env path).map s.merge

end Settings
end HttpGet
