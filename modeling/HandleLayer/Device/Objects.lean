import HandleLayer.Device.Tracked
import HandleLayer.Dispatch

/-!
# Objects of a device

Every request is handed down with real handles in it, and the answer is written
into the output storage of the application.  A created object gets its surrogate there;
a destroyed one loses it.

## Main definitions

* `DeviceM` — programs that serve a call to a device.
* `send`, `relay` — a request handed down, without and with output storage.
* `createObject`, `destroyObject`, `releaseConfiguration`.
-/

namespace HandleLayer

/-- Programs that serve a call to a device. -/
abbrev DeviceM (σ : Type) := CallM Tracked σ

namespace Device

variable {σ : Type} [NextLayer σ]

/-- Hands a request down with the real handles; the request as it went down, and the
answer. -/
def send (r : DeviceRequest) (room : Option Nat) : DeviceM σ (DeviceRequest × Reply) := do
  let s ← get
  let resolved := r.resolve s.world.wrapper s.object.own.toShadows
  note resolved.notices
  let reply ← forward (.ofDevice resolved.value) room
  return (resolved.value, reply)

/-- Hands a request down and writes the answer into the output storage. -/
def relay (r : DeviceRequest) (out : Outputs) : DeviceM σ (Result × Outputs) := do
  let (sent, reply) ← send r (out.slots.map List.length)
  return (reply.result, reply.write sent.chains out)

/-- Creates an object; on success its slot holds a surrogate. -/
def createObject (info : CreateInfo) (out : Outputs) : DeviceM σ (Result × Outputs) := do
  let (result, out) ← relay (.create info) out
  match out.slots with
  | some (real :: rest) =>
    if result = .success then
      let h ← wrapNew real
      announceCreated info.objectType h
      return (result, { out with slots := some (h :: rest) })
    else
      return (result, out)
  -- there is no slot in which a surrogate could be shown
  | _ => return (result, out)

/-- Destroys an object; its surrogate is gone with it. -/
def destroyObject (kind : Destroyable) (h : Handle) : DeviceM σ Unit := do
  let _ ← send (.destroy kind h) none
  eraseHandle h
  announceDestroyed kind.objectType h

/-- Releases a performance configuration; its surrogate is gone on success alone. -/
def releaseConfiguration (h : Handle) (out : Outputs) : DeviceM σ (Result × Outputs) := do
  let (result, out) ← relay (.releaseConfiguration h) out
  if result = .success then
    eraseHandle h
    announceDestroyed .performanceConfiguration h
  return (result, out)

end Device

end HandleLayer
