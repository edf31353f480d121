import HandleLayer.Settings.File

/-!
# Settings from the environment

When an instance is created the settings file is read first and the lists in the
environment override it.  Neither a bad file nor a bad list stops the layer: a file that
cannot be read is passed over in silence, anything else that is refused is warned about.

## Main definitions

* `Environment` — the variables and the files.
* `Environment.configPath`, `Environment.load`, `Environment.settings`.
-/

namespace HandleLayer

/-- The variable that lists features to switch off. -/
def disablesVariable : String := "RVL_DISABLES"

/-- The variable that lists features to switch on. -/
def enablesVariable : String := "RVL_ENABLES"

/-- The variable that names the settings file. -/
def configVariable : String := "RVL_CONFIG"

/-- The settings file of the whole system. -/
def systemConfigPath : String := "/etc/rvl/rvl.toml"

/-- The settings file in the working directory. -/
def localConfigPath : String := "rvl.toml"

/-- The variables and files that settings come from. -/
structure Environment where
  /-- The value of a variable that is set. -/
  value? : String → Option String
  /-- The content of a file that can be read. -/
  file? : String → Option String
  /-- The table that a text is read as. -/
  parse? : String → Option Toml.Entries := Toml.parse?

/-- Something about the settings that is worth a warning. -/
inductive SettingsWarning
  /-- The file at `path` was passed over. -/
  | fileIgnored (path : String) (cause : SettingsError)
  /-- The lists in the environment were passed over. -/
  | overrideIgnored (cause : SettingsError)
  deriving DecidableEq, Repr

/-- The text of a warning. -/
def SettingsWarning.message : SettingsWarning → String
  | .fileIgnored path cause => "ignoring settings file " ++ path ++ ": " ++ cause.message
  | .overrideIgnored cause => "ignoring environment override: " ++ cause.message

namespace Environment

/-- Where the settings file is looked for: where the variable says, else at the place for
the whole system if a file is there, else in the working directory. -/
def configPath (env : Environment) : String :=
  match env.value? configVariable with
  | some path => path
  | none => if (env.file? systemConfigPath).isSome then systemConfigPath else localConfigPath

/-- The settings in the file at `path`. -/
def load (env : Environment) (path : String) : Except SettingsError Settings :=
  match env.file? path with
  | none => .error .unreadableFile
  | some text => Settings.ofTextWith env.parse? text

/-- The settings in the file at `path`, or the default ones. -/
def loadOrDefault (env : Environment) (path : String) : Settings × List SettingsWarning :=
  match env.load path with
  | .ok settings => (settings, [])
  | .error .unreadableFile => (.default, [])
  | .error cause => (.default, [.fileIgnored path cause])

/-- The settings of an instance, with the warnings on the way. -/
def settings (env : Environment) : Settings × List SettingsWarning :=
  let (settings, warnings) := env.loadOrDefault env.configPath
  let (result, settings) := (Settings.applyOverrides ((env.value? disablesVariable).getD "")
    ((env.value? enablesVariable).getD "")).run.run settings
  match result with
  | .ok () => (settings, warnings)
  | .error cause => (settings, warnings ++ [.overrideIgnored cause])

end Environment

end HandleLayer
