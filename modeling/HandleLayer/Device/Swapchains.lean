import HandleLayer.Device.Objects

/-!
# Images of swapchains

The images of a swapchain are reported again and again, as many as the application has
room for.  Each gets its surrogate at its first report and keeps it as long as the
swapchain lives.

## Main definitions

* `destroySwapchain`, `getSwapchainImages`.
-/

namespace HandleLayer

namespace Device

variable {σ : Type} [NextLayer σ]

/-- Destroys a swapchain; its images are gone with it. -/
def destroySwapchain (swapchain : Handle) : DeviceM σ Unit := do
  let images := (← getOwn).imagesOf swapchain
  modifyOwn (Tracked.forgetSwapchain swapchain)
  let _ ← send (.destroy .swapchain swapchain) none
  eraseHandle swapchain
  images.forM eraseHandle
  images.forM (announceDestroyed .image)
  announceDestroyed .swapchain swapchain

/-- Reports the images of a swapchain.  Those that were not reported before get
surrogates, and every slot written holds the surrogate of its image. -/
def getSwapchainImages (swapchain : Handle) (out : Outputs) :
    DeviceM σ (Result × Outputs) := do
  let (result, out) ← relay (.getSwapchainImages swapchain) out
  match out.slots with
  | none => return (result, out)
  | some slots =>
    if (← wrapping) ∧ result.reports then
      let count := out.count.toNat
      let known := (← getOwn).imagesOf swapchain
      -- images come in a fixed order, so that only those behind the known ones are new
      let fresh ← wrapNewMany ((slots.take count).drop known.length)
      let images := known ++ fresh
      modifyOwn (Tracked.setImages swapchain images)
      fresh.forM (announceCreated .image)
      return (result, { out with slots := some (overwrite slots (images.take count)) })
    else
      return (result, out)

end Device

end HandleLayer
