import HandleLayer.Device.Objects

/-!
# Descriptor pools

Descriptor sets are allocated from a pool and live until they are freed, or until the
pool is reset or destroyed.

## Main definitions

* `destroyDescriptorPool`, `resetDescriptorPool` — the end of all sets of a pool.
* `allocateSets`, `freeSets`.
-/

namespace HandleLayer

namespace Device

variable {σ : Type}

/-- The surrogates of sets are gone, and the sets with them. -/
def dropSets (sets : List Handle) : DeviceM σ Unit :=
  sets.forM fun set => do
    eraseHandle set
    announceDestroyed .descriptorSet set

variable [NextLayer σ]

/-- Destroys a pool; its sets go first. -/
def destroyDescriptorPool (pool : Handle) : DeviceM σ Unit := do
  let sets := (← getOwn).setsOf pool
  modifyOwn (Tracked.forgetPool pool)
  -- the sets are announced before the next layer is asked for anything
  dropSets sets.toList
  destroyObject .descriptorPool pool

/-- Resets a pool; on success its sets are gone. -/
def resetDescriptorPool (pool : Handle) (flags : UInt32) (out : Outputs) :
    DeviceM σ (Result × Outputs) := do
  let (result, out) ← relay (.resetDescriptorPool pool flags) out
  if result = .success then
    let sets := (← getOwn).setsOf pool
    modifyOwn (Tracked.clearSets pool)
    dropSets sets.toList
  return (result, out)

/-- Allocates sets from a pool, one for each layout; on success every slot of theirs holds a
surrogate. -/
def allocateSets (pool : Handle) (layouts : AppArray Handle) (out : Outputs) :
    DeviceM σ (Result × Outputs) := do
  let (result, out) ← relay (.allocateSets pool layouts) out
  if (← wrapping) ∧ result = .success then
    -- the array may go on behind the sets asked for, and there it holds anything
    let sets ← wrapNewMany (out.first layouts.count)
    modifyOwn (Tracked.addSets pool sets)
    sets.forM (announceCreated .descriptorSet)
    return (result, out.present sets)
  else
    -- handles that are not wrapped are neither kept nor announced
    return (result, out)

/-- Frees sets of a pool; on success their surrogates are gone. -/
def freeSets (pool : Handle) (sets : AppArray Handle) (out : Outputs) :
    DeviceM σ (Result × Outputs) := do
  let (result, out) ← relay (.freeSets pool sets) out
  if (← wrapping) ∧ result = .success then
    modifyOwn (Tracked.removeSets pool sets.toList)
    dropSets sets.toList
  return (result, out)

end Device

end HandleLayer
