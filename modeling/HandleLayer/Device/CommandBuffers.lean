import HandleLayer.Device.Objects

/-!
# Command buffers

Command buffers are not wrapped.  The layer remembers which ones are secondary, for only
those take over a render pass from their primary.

## Main definitions

* `allocateCommandBuffers`, `freeCommandBuffers`.
-/

namespace HandleLayer

namespace Device

variable {σ : Type} [NextLayer σ]

/-- Allocates command buffers; secondary ones are remembered with their pool. -/
def allocateCommandBuffers (pool : Handle) (level : BufferLevel) (count : UInt32)
    (out : Outputs) : DeviceM σ (Result × Outputs) := do
  let (result, out) ← relay (.allocateCommandBuffers pool level count) out
  -- the array may go on behind the buffers asked for, and there it holds anything
  if result = .success ∧ level = .secondary then
    modifyOwn (Tracked.addSecondaries pool (out.first count.toNat))
  return (result, out)

/-- Frees command buffers. -/
def freeCommandBuffers (pool : Handle) (buffers : AppArray Handle) : DeviceM σ Unit := do
  let _ ← send (.freeCommandBuffers pool buffers) none
  modifyOwn (Tracked.removeSecondaries buffers.toList)

end Device

end HandleLayer
