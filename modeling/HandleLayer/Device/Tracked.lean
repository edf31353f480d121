import HandleLayer.Deferred
import HandleLayer.HandleSet

/-!
# What a device keeps

Some objects live as long as their parent: descriptor sets as long as their pool, images
of a swapchain as long as the swapchain.  The layer keeps the children of each parent, and
with them the shadows and the deferred operations of the device.

## Main definitions

* `Tracked` — all that the layer keeps for one device, under the handles of the
  application.
* `Tracked.setsOf`, `Tracked.imagesOf` — the children of a pool and of a swapchain.

## Main results

* `Tracked.setsOf_addSets`, `Tracked.imagesOf_setImages` and their like — each change
  through the children.
-/

namespace HandleLayer

/-- What the layer keeps for one device. -/
structure Tracked extends Shadows where
  /-- The descriptor sets of every pool that has had any. -/
  poolSets : Table Handle HandleSet
  /-- The images of every swapchain, in the order of the next layer. -/
  swapchainImages : Table Handle (List Handle)
  deferred : DeferredOperations

namespace Tracked

/-- Nothing is kept yet. -/
def empty : Tracked := ⟨.empty, .empty, .empty, .empty⟩

instance : Inhabited Tracked := ⟨empty⟩

/-- The descriptor sets of a pool. -/
def setsOf (t : Tracked) (pool : Handle) : HandleSet := (t.poolSets.get? pool).getD ∅

/-- The images of a swapchain. -/
def imagesOf (t : Tracked) (swapchain : Handle) : List Handle :=
  (t.swapchainImages.get? swapchain).getD []

/-! ### Descriptor sets -/

/-- Further sets in a pool, which is known from then on. -/
def addSets (pool : Handle) (sets : List Handle) (t : Tracked) : Tracked :=
  { t with poolSets := t.poolSets.insert pool ((t.setsOf pool).insertMany sets) }

/-- The pool without some of its sets. -/
def removeSets (pool : Handle) (sets : List Handle) (t : Tracked) : Tracked :=
  { t with poolSets := t.poolSets.modify pool (·.removeAll sets) }

/-- The pool without any sets. -/
def clearSets (pool : Handle) (t : Tracked) : Tracked :=
  { t with poolSets := t.poolSets.modify pool fun _ => ∅ }

/-- Nothing is known of the pool. -/
def forgetPool (pool : Handle) (t : Tracked) : Tracked :=
  { t with poolSets := t.poolSets.erase pool }

@[simp] theorem setsOf_addSets (t : Tracked) (pool pool' : Handle) (sets : List Handle) :
    (t.addSets pool sets).setsOf pool'
      = if pool = pool' then (t.setsOf pool).insertMany sets else t.setsOf pool' := by
  simp only [addSets, setsOf, Table.get?_insert]
  split <;> rfl

theorem mem_setsOf_removeSets (t : Tracked) (pool pool' h : Handle) (sets : List Handle) :
    h ∈ (t.removeSets pool sets).setsOf pool'
      ↔ h ∈ t.setsOf pool' ∧ (pool' = pool → h ∉ sets) := by
  simp only [removeSets, setsOf, Table.get?_modify]
  split
  · cases t.poolSets.get? pool' <;> simp_all
  · simp_all

@[simp] theorem setsOf_forgetPool (t : Tracked) (pool pool' : Handle) :
    (t.forgetPool pool).setsOf pool' = if pool = pool' then ∅ else t.setsOf pool' := by
  simp only [forgetPool, setsOf, Table.get?_erase]
  split <;> rfl

@[simp] theorem setsOf_clearSets (t : Tracked) (pool pool' : Handle) :
    (t.clearSets pool).setsOf pool' = if pool' = pool then ∅ else t.setsOf pool' := by
  simp only [clearSets, setsOf, Table.get?_modify]
  split
  · cases t.poolSets.get? pool' <;> rfl
  · rfl

/-! ### Images of swapchains -/

/-- The images of a swapchain, whatever they were. -/
def setImages (swapchain : Handle) (images : List Handle) (t : Tracked) : Tracked :=
  { t with swapchainImages := t.swapchainImages.insert swapchain images }

/-- Nothing is known of the swapchain. -/
def forgetSwapchain (swapchain : Handle) (t : Tracked) : Tracked :=
  { t with swapchainImages := t.swapchainImages.erase swapchain }

@[simp] theorem imagesOf_setImages (t : Tracked) (swapchain swapchain' : Handle)
    (images : List Handle) :
    (t.setImages swapchain images).imagesOf swapchain'
      = if swapchain = swapchain' then images else t.imagesOf swapchain' := by
  simp only [setImages, imagesOf, Table.get?_insert]
  split <;> rfl

@[simp] theorem imagesOf_forgetSwapchain (t : Tracked) (swapchain swapchain' : Handle) :
    (t.forgetSwapchain swapchain).imagesOf swapchain'
      = if swapchain = swapchain' then [] else t.imagesOf swapchain' := by
  simp only [forgetSwapchain, imagesOf, Table.get?_erase]
  split <;> rfl

/-! ### Shadows -/

/-- The attachments of a render pass are remembered. -/
def setUsage (renderPass : Handle) (usage : RenderPassUsage) (t : Tracked) : Tracked :=
  { t with renderPasses := t.renderPasses.insert renderPass usage }

/-- The attachments of a render pass are forgotten. -/
def forgetUsage (renderPass : Handle) (t : Tracked) : Tracked :=
  { t with renderPasses := t.renderPasses.erase renderPass }

/-- A template is remembered. -/
def setTemplate (handle : Handle) (template : Template) (t : Tracked) : Tracked :=
  { t with templates := t.templates.insert handle template }

/-- A template is forgotten. -/
def forgetTemplate (handle : Handle) (t : Tracked) : Tracked :=
  { t with templates := t.templates.erase handle }

/-- Command buffers are secondary ones of a pool. -/
def addSecondaries (pool : Handle) (buffers : List Handle) (t : Tracked) : Tracked :=
  { t with secondaries := buffers.foldl (fun s b => s.insert b pool) t.secondaries }

/-- Command buffers are no secondary ones any more. -/
def removeSecondaries (buffers : List Handle) (t : Tracked) : Tracked :=
  { t with secondaries := buffers.foldl Table.erase t.secondaries }

/-- The secondary command buffers of a pool are forgotten. -/
def forgetCommandPool (pool : Handle) (t : Tracked) : Tracked :=
  { t with secondaries := t.secondaries.filter fun _ p => p ≠ pool }

theorem get?_addSecondaries (t : Tracked) (pool b : Handle) (buffers : List Handle) :
    (t.addSecondaries pool buffers).secondaries.get? b
      = if b ∈ buffers then some pool else t.secondaries.get? b := by
  show (buffers.foldl (fun s b => s.insert b pool) t.secondaries).get? b = _
  generalize t.secondaries = s
  induction buffers generalizing s with
  | nil => simp
  | cons b' buffers ih =>
    rw [List.foldl_cons, ih, Table.get?_insert]
    by_cases hb : b = b'
    · simp [hb]
    · simp [hb, Ne.symm hb]

theorem get?_removeSecondaries (t : Tracked) (b : Handle) (buffers : List Handle) :
    (t.removeSecondaries buffers).secondaries.get? b
      = if b ∈ buffers then none else t.secondaries.get? b := by
  show (buffers.foldl Table.erase t.secondaries).get? b = _
  generalize t.secondaries = s
  induction buffers generalizing s with
  | nil => simp
  | cons b' buffers ih =>
    rw [List.foldl_cons, ih, Table.get?_erase]
    by_cases hb : b = b'
    · simp [hb]
    · simp [hb, Ne.symm hb]

/-! ### Deferred operations -/

/-- The deferred operations changed. -/
def modifyDeferred (f : DeferredOperations → DeferredOperations) (t : Tracked) : Tracked :=
  { t with deferred := f t.deferred }

end Tracked

end HandleLayer
