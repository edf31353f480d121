import HandleLayer.Device
import HandleLayer.Instance

/-!
# Systems

A system is an instance with its devices, all of which share one surrogate map, above a
next layer of any kind.

## Main definitions

* `System`, `System.start`, `System.addDevice` — a system from its beginnings.
* `System.onInstance`, `System.onDevice` — calls to the objects of a system.
* `Action`, `System.act`, `System.run` — what can happen to a system, once and in turn.
-/

namespace HandleLayer

/-- An instance with its devices. -/
structure System (σ : Type) where
  host : Dispatch Settings
  devices : List (Dispatch Tracked)
  world : World σ

namespace System

variable {σ α : Type}

/-- Runs calls to the instance. -/
def onInstance (call : InstanceM σ α) (s : System σ) : α × System σ :=
  let (a, layer) := call.run ⟨s.host, s.world⟩
  (a, { s with host := layer.object, world := layer.world })

/-- Runs calls to the device with this number, if there is one. -/
def onDevice (k : Nat) (call : DeviceM σ α) (s : System σ) : Option (α × System σ) :=
  s.devices[k]?.map fun device =>
    let (a, layer) := call.run ⟨device, s.world⟩
    (a, { s with devices := s.devices.set k layer.object, world := layer.world })

/-- The system with the registry of the instance changed. -/
def modifyHost (f : Behaviour → Registry → Registry) (s : System σ) : System σ :=
  { s with host := { s.host with registry := f s.world.behaviour s.host.registry } }

/-- The system with the registry of a device changed. -/
def modifyDevice (k : Nat) (f : Behaviour → Registry → Registry) (s : System σ) :
    System σ :=
  { s with devices := s.devices.modify k fun d =>
      { d with registry := f s.world.behaviour d.registry } }

variable [NextLayer σ]

/-- A new instance without devices. -/
def start (instanceHandle : Handle) (requested : ApiVersion) (settings : Settings)
    (table : EntryTable) (behaviour : Behaviour) (objects : List ValidationObject)
    (below : σ) : System σ :=
  let layer := Instance.start instanceHandle requested settings table behaviour objects below
  ⟨layer.object, [], layer.world⟩

/-- Creates a device. -/
def addDevice (physicalDevice device : Handle) (table : EntryTable)
    (objects : List ValidationObject) (s : System σ) : System σ :=
  let (object, s) :=
    s.onInstance (Instance.startDevice physicalDevice device table objects)
  { s with devices := s.devices ++ [object] }

end System

/-! ### Runs -/

/-- What can happen to a system. -/
inductive Action (σ : Type)
  | callInstance (request : InstanceRequest) (out : Outputs)
  | callDevice (device : Nat) (request : DeviceRequest) (out : Outputs)
  | createDevice (physicalDevice device : Handle) (table : EntryTable)
      (objects : List ValidationObject)
  /-- Validation objects of one kind are released from the instance or from a device. -/
  | release (device : Option Nat) (kind : ObjectKind)
  /-- Every validation object is released from the instance or from a device. -/
  | releaseAll (device : Option Nat)
  /-- Validation objects answer otherwise from now on. -/
  | instruct (behaviour : Behaviour)
  /-- The next layer changes of its own accord. -/
  | moveBelow (f : σ → σ)

namespace System

variable {σ : Type}

/-- The system with the registry of the instance or of a device changed. -/
def modifyRegistry (device : Option Nat) (f : Behaviour → Registry → Registry)
    (s : System σ) : System σ :=
  match device with
  | none => s.modifyHost f
  | some k => s.modifyDevice k f

variable [NextLayer σ]

/-- The system after something has happened to it; a call to a device that there is not
comes to nothing. -/
def act (s : System σ) : Action σ → System σ
  | .callInstance request out => (s.onInstance (Instance.perform request out)).2
  | .callDevice k request out =>
    ((s.onDevice k (Device.perform request out)).map Prod.snd).getD s
  | .createDevice physicalDevice device table objects =>
    s.addDevice physicalDevice device table objects
  | .release device kind => s.modifyRegistry device (Registry.release kind)
  | .releaseAll device => s.modifyRegistry device Registry.releaseAll
  | .instruct behaviour => { s with world := { s.world with behaviour } }
  | .moveBelow f => { s with world := { s.world with below := f s.world.below } }

theorem act_callInstance (s : System σ) (r : InstanceRequest) (out : Outputs) :
    s.act (.callInstance r out) = (s.onInstance (Instance.perform r out)).2 := rfl

theorem act_callDevice (s : System σ) (k : Nat) (r : DeviceRequest) (out : Outputs) :
    s.act (.callDevice k r out)
      = ((s.onDevice k (Device.perform r out)).map Prod.snd).getD s := rfl

/-- The system after all of this has happened to it in turn. -/
def run (s : System σ) (actions : List (Action σ)) : System σ := actions.foldl act s

end System

end HandleLayer
