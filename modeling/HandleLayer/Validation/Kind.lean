import HandleLayer.Feature

/-!
# Kinds of validation objects

Each kind of validation object but one belongs to a feature and is left out when the
feature is not active.
-/

namespace HandleLayer

/-- The kind of a validation object. -/
inductive ObjectKind
  | instanceRules
  | threading
  | parameterValidation
  | objectTracker
  | coreValidation
  | bestPractices
  | gpuAssisted
  | debugPrintf
  | syncValidation
  deriving DecidableEq, Repr, Inhabited

namespace ObjectKind

/-- Every kind. -/
def all : List ObjectKind :=
  [instanceRules, threading, parameterValidation, objectTracker, coreValidation, bestPractices,
    gpuAssisted, debugPrintf, syncValidation]

/-- The name of a kind. -/
def name : ObjectKind → String
  | instanceRules => "Instance"
  | threading => "Threading"
  | parameterValidation => "ParameterValidation"
  | objectTracker => "ObjectTracker"
  | coreValidation => "CoreValidation"
  | bestPractices => "BestPractices"
  | gpuAssisted => "GpuAssisted"
  | debugPrintf => "DebugPrintf"
  | syncValidation => "SyncValidation"

/-- The kind with this name. -/
def ofName? (s : String) : Option ObjectKind := all.find? fun k => k.name == s

/-- The feature that switches the kind; none for the kind that is always present. -/
def feature? : ObjectKind → Option Feature
  | instanceRules => none
  | threading => some .threadSafety
  | parameterValidation => some .statelessChecks
  | objectTracker => some .objectLifetimes
  | coreValidation => some .coreChecks
  | bestPractices => some .bestPractices
  | gpuAssisted => some .gpuAssisted
  | debugPrintf => some .debugPrintf
  | syncValidation => some .syncValidation

end ObjectKind

end HandleLayer
