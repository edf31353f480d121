import HandleLayer.ApiVersion
import HandleLayer.Chain.TypeName
import HandleLayer.Descriptor.Type
import HandleLayer.Identity
import HandleLayer.Validation.Kind

/-!
# Notices

What the layer writes to the log.  Input that it cannot copy is an error in the log and
never one for the application.

## Main definitions

* `InputError` — input that cannot be copied or resolved.
* `Notice`, `Notice.level`, `Notice.message` — the lines of the log.
* `Noted` — a value together with the notices on the way to it.
-/

namespace HandleLayer

/-- Input of the application that the layer cannot copy or resolve. -/
inductive InputError
  | unknownStructure (sType : Int)
  | unknownDescriptorType (type : DescriptorType)
  | missingTemplate (template : Handle)
  deriving DecidableEq, Repr

/-- The text of an input error. -/
def InputError.message : InputError → String
  | .unknownStructure sType =>
    "unsupported structure in pNext chain: " ++ structureTypeName sType
  | .unknownDescriptorType type =>
    "unsupported descriptor type in update template: " ++ type.name
  | .missingTemplate template => "update template " ++ hex template ++ " is not tracked"

/-- How much a notice matters. -/
inductive Level
  | info
  | warn
  | error
  deriving DecidableEq, Repr

/-- The name of a level. -/
def Level.name : Level → String
  | .info => "INFO"
  | .warn => "WARN"
  | .error => "ERROR"

/-- A line of the log. -/
inductive Notice
  /-- A chain is copied up to the first structure of this unknown type. -/
  | chainCut (sType : Int)
  /-- A template entry of this unknown type is left out. -/
  | slotsSkipped (type : DescriptorType)
  /-- The data for an unknown template is passed on as it is. -/
  | templateNotTracked (template : Handle)
  /-- A deferred operation is destroyed while actions wait for it. -/
  | operationDropped (operation : Handle)
  /-- A validation object is left out because its feature is not active. -/
  | objectDisabled (kind : ObjectKind)
  | instanceReady (instanceHandle : Handle) (version : ApiVersion) (wrapping : Bool)
  | deviceReady (device : Handle) (version : ApiVersion)
  deriving DecidableEq, Repr

namespace Notice

/-- How much a notice matters. -/
def level : Notice → Level
  | chainCut _ | slotsSkipped _ | templateNotTracked _ => .error
  | operationDropped _ => .warn
  | objectDisabled _ | instanceReady .. | deviceReady .. => .info

/-- The text of a notice. -/
def message : Notice → String
  | chainCut sType =>
    (InputError.unknownStructure sType).message ++
      "; forwarding the rest of the chain unchanged"
  | slotsSkipped type => (InputError.unknownDescriptorType type).message
  | templateNotTracked template => (InputError.missingTemplate template).message
  | operationDropped operation =>
    "deferred operation " ++ hex operation ++
      " destroyed before completion, dropping its pending actions"
  | objectDisabled kind => "validation object " ++ kind.name ++ " disabled"
  | instanceReady instanceHandle version wrapping =>
    layerName ++ " on instance " ++ hex instanceHandle ++ ": API " ++ ApiVersion.text version ++
      ", handle wrapping " ++ (if wrapping then "on" else "off")
  | deviceReady device version =>
    "device " ++ hex device ++ ": effective API " ++ ApiVersion.text version

end Notice

/-- A value together with the notices on the way to it. -/
structure Noted (α : Type) where
  value : α
  notices : List Notice := []

namespace Noted

variable {α β : Type}

instance [Inhabited α] : Inhabited (Noted α) := ⟨⟨default, []⟩⟩

/-- A value without notices. -/
def quiet (a : α) : Noted α := ⟨a, []⟩

/-- The value changed, the notices kept. -/
def map (f : α → β) (n : Noted α) : Noted β := ⟨f n.value, n.notices⟩

/-- A list of values with all their notices in order. -/
def collect (ns : List (Noted α)) : Noted (List α) := ⟨ns.map value, ns.flatMap notices⟩

@[simp] theorem value_quiet (a : α) : (quiet a).value = a := rfl

@[simp] theorem notices_quiet (a : α) : (quiet a).notices = [] := rfl

@[simp] theorem value_map (f : α → β) (n : Noted α) : (n.map f).value = f n.value := rfl

@[simp] theorem notices_map (f : α → β) (n : Noted α) : (n.map f).notices = n.notices := rfl

@[simp] theorem value_collect (ns : List (Noted α)) :
    (collect ns).value = ns.map value := rfl

@[simp] theorem notices_collect (ns : List (Noted α)) :
    (collect ns).notices = ns.flatMap notices := rfl

end Noted

end HandleLayer
