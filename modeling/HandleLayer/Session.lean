import HandleLayer.Scripted
import HandleLayer.System

/-!
# Sessions

A session is a system in front of a scripted next layer, watched by validation objects
that do as they are told.

## Main definitions

* `ScriptedObject`, `behaviourOf` — validation objects, and how they answer together.
* `SessionSetup`, `Session.start` — a session from its beginnings.
* `Session.onInstance`, `Session.onDevice` — calls within a session.
-/

namespace HandleLayer

/-! ### Validation objects -/

/-- A validation object that does as it is told. -/
structure ScriptedObject where
  kind : ObjectKind
  /-- The commands that it asks to skip. -/
  vetoes : List Command := []
  /-- The commands that it intercepts; none stands for all. -/
  only : Option (List Command) := none
  /-- Whether it intercepts everything, skips nothing and keeps to itself what it is
  told. -/
  silent : Bool := false
  deriving DecidableEq, Repr, Inhabited

/-- Whether the object intercepts a command. -/
def ScriptedObject.intercepts (o : ScriptedObject) (c : Command) : Bool :=
  o.silent || o.only.all (·.contains c)

/-- Whether the object asks to skip a command. -/
def ScriptedObject.skips (o : ScriptedObject) (c : Command) : Bool :=
  !o.silent && o.vetoes.contains c

/-- How the objects answer, each one known by its place in the list. -/
def behaviourOf (objects : List ScriptedObject) : Behaviour where
  intercepts id c := objects[id]?.all (·.intercepts c)
  vetoes id c := objects[id]?.any (·.skips c)

/-- The objects as validation objects. -/
def numbered (objects : List ScriptedObject) : List ValidationObject :=
  objects.zipIdx.map fun (o, id) => ⟨id, o.kind⟩

/-- The objects at these places, or all of them. -/
def select (objects : List ScriptedObject) (places : Option (List Nat)) :
    List ValidationObject :=
  match places with
  | none => numbered objects
  | some places => places.filterMap fun id => objects[id]?.map fun o => ⟨id, o.kind⟩

/-! ### Beginnings -/

/-- A device to be created in a session. -/
structure DeviceSetup where
  physicalDevice : Handle
  /-- The version of the physical device. -/
  apiVersion : ApiVersion
  /-- The places of its validation objects; none stands for all. -/
  objects : Option (List Nat)
  deriving DecidableEq, Repr, Inhabited

/-- What a session begins with. -/
structure SessionSetup where
  /-- The version that the application asks for; zero asks for none. -/
  requested : ApiVersion
  settings : Settings
  /-- The entry points that the next layer has. -/
  knows : Command → Bool
  objects : List ScriptedObject
  /-- The places of the validation objects of the instance; none stands for all. -/
  instanceObjects : Option (List Nat)
  devices : List DeviceSetup

/-- A system with the validation objects that watch it. -/
structure Session extends System Scripted where
  objects : List ScriptedObject

namespace Session

/-- The handle of the instance. -/
def instanceHandle : Handle := 0xa000

/-- The handle of the device with this number. -/
def deviceHandle (k : Nat) : Handle := 0xc000 + 0x100 * k.toUInt64

/-- Runs calls to the instance. -/
def onInstance {α : Type} (call : InstanceM Scripted α) (s : Session) : α × Session :=
  let (a, system) := s.toSystem.onInstance call
  (a, { s with toSystem := system })

/-- Runs calls to the device with this number, if there is one. -/
def onDevice {α : Type} (k : Nat) (call : DeviceM Scripted α) (s : Session) :
    Option (α × Session) :=
  (s.toSystem.onDevice k call).map fun (a, system) => (a, { s with toSystem := system })

/-- Creates a device. -/
def addDevice (knows : Command → Bool) (s : Session) (setup : DeviceSetup) : Session :=
  let system := s.toSystem.addDevice setup.physicalDevice (deviceHandle s.devices.length)
    (.load EntryTable.devicePoints knows) (select s.objects setup.objects)
  { s with toSystem := system }

/-- The session with its instance and devices created. -/
def start (setup : SessionSetup) : Session :=
  let below : Scripted :=
    { versions := setup.devices.foldl
        (fun t d => t.insert d.physicalDevice d.apiVersion) .empty }
  let system := System.start instanceHandle setup.requested setup.settings
    (.load EntryTable.instancePoints setup.knows) (behaviourOf setup.objects)
    (select setup.objects setup.instanceObjects) below
  setup.devices.foldl (addDevice setup.knows) ⟨system, setup.objects⟩

/-! ### Between calls -/

/-- The session with what was seen so far put aside. -/
def quiet (s : Session) : Session := { s with world := { s.world with trace := #[] } }

/-- The session with what the next layer is to answer, when the application names an
operation. -/
def rehearse (script : Script) (operation : Handle) (s : Session) : Session :=
  { s with world := { s.world with below := { s.world.below with script, operation } } }

/-- The session with the work forgotten that was put off under an operation of a
device. -/
def forget (k : Nat) (operation : Handle) (s : Session) : Session :=
  { s with world :=
      { s.world with below := s.world.below.forget (deviceHandle k) operation } }

/-- The session with a validation object told to answer otherwise. -/
def instruct (place : Nat) (f : ScriptedObject → ScriptedObject) (s : Session) : Session :=
  let objects := s.objects.modify place f
  { s with objects, world := { s.world with behaviour := behaviourOf objects } }

/-- The session with the registry of the instance changed. -/
def modifyHost (f : Behaviour → Registry → Registry) (s : Session) : Session :=
  { s with toSystem := s.toSystem.modifyHost f }

/-- The session with the registry of a device changed. -/
def modifyDevice (k : Nat) (f : Behaviour → Registry → Registry) (s : Session) : Session :=
  { s with toSystem := s.toSystem.modifyDevice k f }

/-- The session with handles wrapped, whether handles are wrapped or not. -/
def wrap (reals : List Handle) (s : Session) : List Handle × Session :=
  let (hs, map) := s.world.wrapper.map.wrapMany reals
  (hs, { s with world :=
    { s.world with wrapper := { s.world.wrapper with map } } })

end Session

end HandleLayer
