import HandleLayer.Text

/-!
# Features

The switchable parts of the layer: handle wrapping itself and one feature for each kind
of validation object that can be left out.

## Main definitions

* `Feature`, `Feature.all` — the features, in the order in which they are listed.
* `Feature.name`, `Feature.ofName?` — their names, as written in settings.
* `Feature.onByDefault` — whether a feature is active when no setting mentions it.
-/

namespace HandleLayer

/-- A switchable part of the layer. -/
inductive Feature
  | handleWrapping
  | threadSafety
  | statelessChecks
  | objectLifetimes
  | coreChecks
  | bestPractices
  | gpuAssisted
  | debugPrintf
  | syncValidation
  deriving DecidableEq, Repr, Inhabited

namespace Feature

/-- Every feature. -/
def all : List Feature :=
  [handleWrapping, threadSafety, statelessChecks, objectLifetimes, coreChecks,
    bestPractices, gpuAssisted, debugPrintf, syncValidation]

/-- The name of a feature in settings. -/
def name : Feature → String
  | handleWrapping => "handle_wrapping"
  | threadSafety => "thread_safety"
  | statelessChecks => "stateless_checks"
  | objectLifetimes => "object_lifetimes"
  | coreChecks => "core_checks"
  | bestPractices => "best_practices"
  | gpuAssisted => "gpu_assisted"
  | debugPrintf => "debug_printf"
  | syncValidation => "sync_validation"

/-- Whether the feature is active when no setting mentions it. -/
def onByDefault : Feature → Bool
  | handleWrapping | threadSafety | statelessChecks | objectLifetimes | coreChecks => true
  | bestPractices | gpuAssisted | debugPrintf | syncValidation => false

/-- The feature with exactly this name. -/
def ofName? (s : String) : Option Feature := all.find? fun f => f.name == s

/-- The feature that a user means: white space around the name and the case of its
letters do not matter. -/
def parse? (s : String) : Option Feature := ofName? (Text.lowerAscii (Text.trim s))

theorem mem_all (f : Feature) : f ∈ all := by cases f <;> decide

end Feature

end HandleLayer
