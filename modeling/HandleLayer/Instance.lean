import HandleLayer.Device.Tracked
import HandleLayer.Dispatch

/-!
# Calls to an instance

An instance reports displays, their modes and tools, and it creates devices.  A display
keeps one surrogate, however often it is reported; a mode gets a fresh one each time.
The list of tools begins with the layer itself.

## Main definitions

* `InstanceM` — programs that serve a call to an instance.
* `Instance.start`, `Instance.startDevice` — the objects in front of a new instance and
  of a new device.
* `Instance.reportTools` — the list of tools.
* `Instance.perform` — a whole call.
-/

namespace HandleLayer

/-- Programs that serve a call to an instance, which keeps its settings. -/
abbrev InstanceM (σ : Type) := CallM Settings σ

namespace Instance

variable {σ : Type} [NextLayer σ]

/-- Hands a request down with the real handles and writes the answer into the output
storage. -/
def relay (r : InstanceRequest) (out : Outputs) : InstanceM σ (Result × Outputs) := do
  let sent := r.resolve (← get).world.wrapper
  let reply ← forward (.ofInstance sent) (out.slots.map List.length)
  return (reply.result, reply.write [] out)

/-- Destroys a surface; its surrogate is gone with it. -/
def destroySurface (surface : Handle) : InstanceM σ Unit := do
  let sent := (InstanceRequest.destroySurface surface).resolve (← get).world.wrapper
  let _ ← forward (.ofInstance sent) none
  eraseHandle surface
  announceDestroyed .surface surface

/-- Hands an enumeration down and replaces the handles that it reports. -/
def reportHandles (r : InstanceRequest) (wrap : List Handle → InstanceM σ (List Handle))
    (out : Outputs) : InstanceM σ (Result × Outputs) := do
  let (result, out) ← relay r out
  match out.slots with
  | none => return (result, out)
  | some slots =>
    if result.reports then
      let shown ← wrap (slots.take out.count.toNat)
      return (result, { out with slots := some (overwrite slots shown) })
    else
      return (result, out)

/-! ### Tools -/

/-- Counts the tools: one more than the next layer has, which has none when it does not
have the entry point. -/
def countTools (query : ToolQuery) (physicalDevice : Handle) (out : Outputs) :
    InstanceM σ (Result × Outputs) := do
  let reply ← forward (.ofInstance (.tools query physicalDevice 0)) none
  if reply.result = .extensionNotPresent then
    return (.success, { out with count := 1 })
  else if reply.result = .success then
    return (.success, { out with count := reply.count.getD 0 + 1 })
  else
    return (reply.result, out)

/-- Lists tools: the layer's own in the first slot and those of the next layer in the
slots after it. -/
def listTools (query : ToolQuery) (physicalDevice : Handle) (first : ToolSlot)
    (rest : List ToolSlot) (out : Outputs) : InstanceM σ (Result × Outputs) := do
  -- the slot of the layer itself is not offered to the next layer
  let room := rest.length.toUInt32
  let reply ← forward (.ofInstance (.tools query physicalDevice room)) (some rest.length)
  let tools := some (first.put layerTool :: onto ToolSlot.put reply.tools rest)
  if reply.result = .extensionNotPresent then
    return (.success, { out with tools, count := 1 })
  else if reply.result.reports then
    return (reply.result, { out with tools, count := reply.count.getD room + 1 })
  else
    return (reply.result, { out with tools })

/-- Counts or lists the tools.  Without room for one there is nothing to ask. -/
def reportTools (query : ToolQuery) (physicalDevice : Handle) (out : Outputs) :
    InstanceM σ (Result × Outputs) :=
  match out.tools with
  | none => countTools query physicalDevice out
  | some [] => return (.incomplete, out)
  | some (first :: rest) => listTools query physicalDevice first rest out

/-! ### Calls -/

/-- The part of a call that validation objects can skip. -/
def serve (r : InstanceRequest) (out : Outputs) : InstanceM σ (Result × Outputs) :=
  match r with
  | .destroySurface surface => do
    destroySurface surface
    return (.success, out)
  | .displays .. => reportHandles r wrapDisplayMany out
  | .modes .. => reportHandles r wrapNewMany out
  | .tools query physicalDevice _ => reportTools query physicalDevice out
  | r => relay r out

/-- A call to an instance, from the application's output storage to its result and the
storage afterwards. -/
def perform (r : InstanceRequest) (out : Outputs) : InstanceM σ (Result × Outputs) :=
  intercept r.command out (serve r out)

/-! ### New objects -/

/-- The object in front of a new instance, and what it will share with its devices.
Version zero asks for no version. -/
def start (instanceHandle : Handle) (requested : ApiVersion) (settings : Settings)
    (table : EntryTable) (behaviour : Behaviour) (objects : List ValidationObject)
    (below : σ) : Layer Settings σ :=
  let apiVersion := ApiVersion.ofRequest requested
  let registry := Registry.new behaviour settings objects
  let notices := .instanceReady instanceHandle apiVersion settings.handleWrapping
    :: registry.notices
  { object := ⟨instanceHandle, apiVersion, table, registry.value, settings⟩
    world :=
      { wrapper := .new settings.handleWrapping
        memory := .empty
        behaviour
        below
        trace := (notices.map Event.notice).toArray } }

/-- The object in front of a new device.  Its version is the lower one of the instance's
and the physical device's, which the next layer is asked for. -/
def startDevice (physicalDevice device : Handle) (table : EntryTable)
    (objects : List ValidationObject) : InstanceM σ (Dispatch Tracked) := do
  let reply ← forward (.ofInstance (.physicalDeviceProperties physicalDevice)) none
  let s ← get
  -- an answer without a version counts as version zero
  let apiVersion := min (reply.apiVersion.getD 0) s.object.apiVersion
  let registry := Registry.new s.world.behaviour s.object.own objects
  note (.deviceReady device apiVersion :: registry.notices)
  return ⟨device, apiVersion, table, registry.value, .empty⟩

end Instance

end HandleLayer
