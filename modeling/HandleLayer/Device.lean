import HandleLayer.Device.CommandBuffers
import HandleLayer.Device.Descriptors
import HandleLayer.Device.Pipelines
import HandleLayer.Device.Swapchains

/-!
# Calls to a device

Every call to a device is brought before the validation objects and then served.  Most
requests are handed down and answered without more ado; the others change what the layer
keeps.  Some of that happens outside the interception: what is remembered of an object
goes when its destruction is asked for, and comes when its creation has succeeded.

## Main definitions

* `Device.serve` — the part of a call that can be skipped.
* `Device.perform` — a whole call.
-/

namespace HandleLayer

namespace Device

variable {σ : Type}

/-- What an object is remembered for goes before its destruction is brought before the
validation objects. -/
def prepare : DeviceRequest → DeviceM σ Unit
  | .destroy .renderPass h => modifyOwn (Tracked.forgetUsage h)
  | .destroy .updateTemplate h => modifyOwn (Tracked.forgetTemplate h)
  | .destroy .commandPool h => modifyOwn (Tracked.forgetCommandPool h)
  | .destroy .deferredOperation h => discardOperation h
  | _ => return

/-- What an object is to be remembered for, when it was created under the handle `h`. -/
def remember (h : Handle) : CreateInfo → Tracked → Tracked
  | .renderPass _ subpasses => Tracked.setUsage h (.ofSubpasses subpasses)
  | .updateTemplate type _ _ entries => Tracked.setTemplate h ⟨type, entries.toList⟩
  | _ => id

/-- What is to be kept once a call is over. -/
def conclude (r : DeviceRequest) (result : Result) (out : Outputs) : DeviceM σ Unit := do
  match r with
  | .create info =>
    if (← wrapping) ∧ result = .success then
      match out.slots with
      | some (h :: _) => modifyOwn (remember h info)
      | _ => return
  | .createRayTracingPipelines batch .. =>
    -- late writes of the next layer look for the storage here
    modifyWorld fun w => { w with memory := w.memory.insert batch ⟨out.slots, out.chains⟩ }
  | _ => return

variable [NextLayer σ]

/-- Destroys an object of any kind, with its children. -/
def destroy : Destroyable → Handle → DeviceM σ Unit
  | .descriptorPool, h => destroyDescriptorPool h
  | .swapchain, h => destroySwapchain h
  | kind, h => destroyObject kind h

/-- A call whose entry point has no result and no outputs. -/
def silently (call : DeviceM σ Unit) (out : Outputs) : DeviceM σ (Result × Outputs) := do
  call
  return (.success, out)

/-- The part of a call that validation objects can skip. -/
def serve (r : DeviceRequest) (out : Outputs) : DeviceM σ (Result × Outputs) :=
  match r with
  | .create info => createObject info out
  | .destroy kind h => silently (destroy kind h) out
  | .releaseConfiguration h => releaseConfiguration h out
  | .resetDescriptorPool pool flags => resetDescriptorPool pool flags out
  | .allocateSets pool layouts => allocateSets pool layouts out
  | .freeSets pool sets => freeSets pool sets out
  | .createGraphicsPipelines _ infos => createPipelines r infos.count out
  | .createComputePipelines _ infos => createPipelines r infos.count out
  | .createRayTracingPipelines batch operation cache infos =>
    createRayTracingPipelines batch operation cache infos out
  | .allocateCommandBuffers pool level count => allocateCommandBuffers pool level count out
  | .freeCommandBuffers pool buffers => silently (freeCommandBuffers pool buffers) out
  | .getSwapchainImages swapchain => getSwapchainImages swapchain out
  | .joinOperation operation => awaitOperation r operation out
  | .queryOperation operation => awaitOperation r operation out
  | .buildStructures operation infos ranges => buildStructures operation infos ranges out
  | r => relay r out

/-- A call to a device, from the application's output storage to its result and the
storage afterwards. -/
def perform (r : DeviceRequest) (out : Outputs) : DeviceM σ (Result × Outputs) := do
  -- this has happened even if the call is skipped
  prepare r
  let (result, out) ← intercept r.command out (serve r out)
  conclude r result out
  return (result, out)

end Device

end HandleLayer
