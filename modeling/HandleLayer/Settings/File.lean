import HandleLayer.Settings
import HandleLayer.Toml.Document

/-!
# The settings file

The file is a table with up to three keys that matter: two lists of feature names and
the filter for the log.  A key that is left out has its default, and other keys are of
no concern, whatever stands under them.  How a text is read as a table is a parameter; the
reader of `HandleLayer.Toml` is the one that runs.

## Main definitions

* `Settings.ofEntries?` — the settings that a table gives.
* `Settings.ofTextWith`, `Settings.ofText` — the settings that a text describes.
-/

namespace HandleLayer.Settings

open Toml

/-- Whether an item holds nothing, in whatever form it is written. -/
def isHollow : Item → Bool
  | .array items => items.isEmpty
  | .table _ entries => entries.isEmpty
  | .tables rows => rows.isEmpty
  | _ => false

/-- The feature that a table with one hollow entry names by its key. -/
def featureOfEntries? : Entries → Option Feature
  | [(key, item)] => if isHollow item then Feature.ofName? key else none
  | _ => none

/-- The feature that an element of a list names, by its exact name. -/
def featureOfItem? : Item → Option Feature
  | .text s => Feature.ofName? s
  | .table _ entries => featureOfEntries? entries
  | _ => none

/-- The features that a list names. -/
def featuresOfItem? : Item → Option (List Feature)
  | .array items => items.mapM featureOfItem?
  | .tables rows => rows.mapM featureOfEntries?
  | _ => none

/-- The filter for the log that an item gives. -/
def filterOfItem? : Item → Option String
  | .text s => some s
  | _ => none

/-- What stands under a key, read with `read`, or `missing` when the key is left out. -/
def field? {α : Type} (entries : Entries) (key : String) (read : Item → Option α)
    (missing : α) : Option α :=
  match entries.get? key with
  | none => some missing
  | some item => read item

/-- The settings that the entries of a document give. -/
def ofEntries? (entries : Entries) : Option Settings := do
  let disables ← field? entries "disables" featuresOfItem? []
  let enables ← field? entries "enables" featuresOfItem? []
  let logFilter ← field? entries "log_filter" filterOfItem? defaultLogFilter
  return { disables, enables, logFilter }

/-- The settings that a text describes when `parse?` reads it. -/
def ofTextWith (parse? : String → Option Entries) (text : String) :
    Except SettingsError Settings :=
  match (parse? text).bind ofEntries? with
  | some settings => .ok settings
  | none => .error .malformedFile

/-- The settings that a text describes. -/
def ofText : String → Except SettingsError Settings := ofTextWith parse?

end HandleLayer.Settings
