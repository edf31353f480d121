import HandleLayer.Feature

/-!
# Settings

The settings say which features are off, which are on and how much is logged.  They come
from a file, and lists of names override them afterwards.

## Main definitions

* `Settings`, `Settings.isActive` — the lists and what they decide.
* `Settings.applyOverrides` — a list of names to switch off and one to switch on, applied to
  the settings in place.
* `SettingsError` — why a settings file or a list is refused.
-/

namespace HandleLayer

/-- Why settings are refused. -/
inductive SettingsError
  /-- A name in a list, trimmed, is the name of no feature. -/
  | unknownSetting (name : String)
  /-- The settings contradict something else. -/
  | configuration (detail : String)
  /-- The settings file is not a well-formed document of the right shape. -/
  | malformedFile
  /-- The settings file cannot be read. -/
  | unreadableFile
  deriving DecidableEq, Repr

/-- The text shown for an error in settings. -/
def SettingsError.message : SettingsError → String
  | .unknownSetting name => "unknown layer setting: " ++ name
  | .configuration detail => "configuration error: " ++ detail
  | .malformedFile => "failed to parse settings file"
  | .unreadableFile => "IO error"

/-- Which features are switched off and on, and what is logged. -/
structure Settings where
  /-- The features switched off. -/
  disables : List Feature
  /-- The features switched on. -/
  enables : List Feature
  /-- The filter for the log, used when the environment gives none. -/
  logFilter : String
  deriving DecidableEq, Repr

namespace Settings

/-- The filter for the log when the settings give none. -/
def defaultLogFilter : String := "info"

/-- The settings that mention no feature. -/
def default : Settings := ⟨[], [], defaultLogFilter⟩

instance : Inhabited Settings := ⟨default⟩

/-- Whether a feature is active: not if it is switched off, and otherwise if it is on by
default or switched on. -/
def isActive (s : Settings) (f : Feature) : Bool :=
  !s.disables.contains f && (f.onByDefault || s.enables.contains f)

/-- The active features, in their order. -/
def active (s : Settings) : List Feature := Feature.all.filter s.isActive

/-- Whether handles are wrapped. -/
def handleWrapping (s : Settings) : Bool := s.isActive .handleWrapping

/-! ### Overriding -/

/-- The feature that a text names. -/
def parseFeature (s : String) : Except SettingsError Feature :=
  match Feature.parse? s with
  | some f => .ok f
  | none => .error (.unknownSetting (Text.trim s))

/-- The features that a comma separated list names; blank pieces are skipped and the
first piece that names no feature is an error. -/
def parseList (list : String) : Except SettingsError (List Feature) :=
  go (Text.splitCommas list)
where
  /-- The features named by the pieces. -/
  go : List String → Except SettingsError (List Feature)
    | [] => .ok []
    | piece :: pieces =>
      if Text.trim piece = "" then go pieces
      else
        match parseFeature piece with
        | .error e => .error e
        | .ok f =>
          match go pieces with
          | .error e => .error e
          | .ok fs => .ok (f :: fs)

/-- A list of features with `f` in it, at the end if it is new. -/
def addOnce (fs : List Feature) (f : Feature) : List Feature :=
  if fs.contains f then fs else fs ++ [f]

/-- The settings with `f` switched on. -/
def switchOn (s : Settings) (f : Feature) : Settings :=
  { s with disables := s.disables.filter (· ≠ f), enables := addOnce s.enables f }

/-- The settings with `f` switched off. -/
def switchOff (s : Settings) (f : Feature) : Settings :=
  { s with enables := s.enables.filter (· ≠ f), disables := addOnce s.disables f }

/-- Switches the features of one list off and those of the other on.  A feature in both is
off, for the first list comes last. -/
def applyOverrides (disables enables : String) : ExceptT SettingsError (StateM Settings) Unit := do
  -- both lists are read before either is applied
  let off ← MonadExcept.ofExcept (parseList disables)
  let on ← MonadExcept.ofExcept (parseList enables)
  on.forM fun f => modify (switchOn · f)
  off.forM fun f => modify (switchOff · f)

/-- The settings that two lists have overridden, or why they are refused. -/
def override (s : Settings) (disables enables : String) : Except SettingsError Settings :=
  let (result, s) := (applyOverrides disables enables).run.run s
  result.map fun () => s

end Settings

end HandleLayer
