import HandleLayer.Geometry
import HandleLayer.Request.Create
import HandleLayer.Request.Pipeline
import HandleLayer.Result

/-!
# Requests to a device

What the application asks of a device, and what the layer asks of the next one: the same
requests on both sides, with surrogates above and real handles below.

## Main definitions

* `DeviceRequest`, `DeviceRequest.command` — the requests and their commands.
* `Shadows` — what the layer remembers in order to resolve requests.
* `DeviceRequest.isGuarded` — the requests that go down untouched while nothing is wrapped.
* `DeviceRequest.resolve` — the request as it is handed down.

## Main results

* `DeviceRequest.resolve_of_disabled` — while nothing is wrapped every request goes down as it is.
-/

namespace HandleLayer

/-- Names a place of the application that is written after a call has returned. -/
abbrev BatchId := Nat

/-- The level of a command buffer. -/
inductive BufferLevel
  | primary
  | secondary
  | other (code : Int)
  deriving DecidableEq, Repr, Inhabited

/-- The number of a level. -/
def BufferLevel.code : BufferLevel → Int
  | .primary => 0
  | .secondary => 1
  | .other code => code

/-- The level with this number. -/
def BufferLevel.ofCode (code : Int) : BufferLevel :=
  if code = 0 then .primary else if code = 1 then .secondary else .other code

/-- What a secondary command buffer takes over from its primary. -/
structure Inheritance where
  renderPass : Handle
  framebuffer : Handle
  subpass : UInt32
  deriving DecidableEq, Repr, Inhabited

/-- The inheritance with both handles replaced. -/
def Inheritance.mapHandles (f : Handle → Handle) (i : Inheritance) : Inheritance :=
  { i with renderPass := f i.renderPass, framebuffer := f i.framebuffer }

/-- A presentation of images. -/
structure PresentInfo where
  wait : AppArray Handle
  swapchains : AppArray Handle
  /-- The number of the image, for each swapchain. -/
  indices : AppArray UInt32
  /-- The results of each swapchain, as they are before the call; none is a null
  pointer. -/
  results : Option (List Result)
  chain : Chain
  deriving DecidableEq, Repr, Inhabited

/-- The presentation as it is handed down. -/
def PresentInfo.resolve (w : Wrapper) (p : PresentInfo) : Noted PresentInfo :=
  (Chain.copy w p.chain.blocks).map fun chain =>
    { p with wait := p.wait.map w.unwrap, swapchains := p.swapchains.map w.unwrap, chain }

/-- The two extensions through which objects are named. -/
inductive DebugExtension
  | utils
  | marker
  deriving DecidableEq, Repr, Inhabited

/-- What is attached to an object for debugging. -/
inductive DebugLabel
  | name (text : Option String)
  | tag (number : UInt64) (bytes : List UInt8)
  deriving DecidableEq, Repr, Inhabited

/-- A request to a device. -/
inductive DeviceRequest
  | destroyDevice
  | create (info : CreateInfo)
  | destroy (kind : Destroyable) (handle : Handle)
  | releaseConfiguration (configuration : Handle)
  | resetDescriptorPool (pool : Handle) (flags : UInt32)
  | allocateSets (pool : Handle) (layouts : AppArray Handle)
  | freeSets (pool : Handle) (sets : AppArray Handle)
  | updateSets (writes : AppArray DescriptorWrite) (copies : AppArray DescriptorCopy)
  | updateSetWithTemplate (set template : Handle) (data : Option Blob)
  | pushSetWithTemplate (commandBuffer template layout : Handle) (setIndex : UInt32)
      (data : Option Blob)
  /-- The form with a chain, which may describe the pipeline layout. -/
  | pushSetWithTemplate2 (commandBuffer template layout : Handle) (setIndex : UInt32)
      (data : Option Blob) (chain : Chain)
  | getDescriptor (query : DescriptorQuery)
  | beginRenderPass (commandBuffer renderPass framebuffer : Handle) (contents : Int)
      (chain : Chain)
  | createGraphicsPipelines (cache : Handle) (infos : AppArray GraphicsInfo)
  | createComputePipelines (cache : Handle) (infos : AppArray ComputeInfo)
  /-- The outputs go to the place `batch`, which the next layer may write later. -/
  | createRayTracingPipelines (batch : BatchId) (operation cache : Handle)
      (infos : AppArray RayTracingInfo)
  | allocateCommandBuffers (pool : Handle) (level : BufferLevel) (count : UInt32)
  | freeCommandBuffers (pool : Handle) (buffers : AppArray Handle)
  | beginCommandBuffer (commandBuffer : Handle) (flags : UInt32)
      (inheritance : Option Inheritance)
  | getSwapchainImages (swapchain : Handle)
  | acquireNextImage (swapchain : Handle) (timeout : UInt64) (semaphore fence : Handle)
  | present (queue : Handle) (info : PresentInfo)
  | joinOperation (operation : Handle)
  | queryOperation (operation : Handle)
  | buildStructures (operation : Handle) (infos : AppArray BuildInfo)
      (ranges : Option (List (List BuildRange)))
  | recordBuildStructures (commandBuffer : Handle) (infos : AppArray BuildInfo)
      (ranges : Option (List (List BuildRange)))
  | getBuildSizes (buildType : Int) (info : BuildInfo)
  | labelObject (extension : DebugExtension) (type : Int) (object : Handle)
      (label : DebugLabel)
  | exportMetalObjects (chain : Chain)
  deriving DecidableEq, Repr, Inhabited

/-- What the layer remembers of earlier requests in order to resolve later ones, under
the handles of the application. -/
structure Shadows where
  renderPasses : Table Handle RenderPassUsage
  templates : Table Handle Template
  /-- The pool of every secondary command buffer. -/
  secondaries : Table Handle Handle

namespace Shadows

/-- Nothing is remembered. -/
def empty : Shadows := ⟨.empty, .empty, .empty⟩

instance : Inhabited Shadows := ⟨empty⟩

/-- The data for a template, rebuilt with the real handles; the data for an unknown
template stays as it is. -/
def rebuild (s : Shadows) (w : Wrapper) (template : Handle) (data : Option Blob) :
    Noted (Option Blob) :=
  match s.templates.get? template with
  | some t => (t.build w data).map some
  | none => ⟨data, [.templateNotTracked template]⟩

end Shadows

namespace DeviceRequest

/-- The command of a request. -/
def command : DeviceRequest → Command
  | destroyDevice => .destroyDevice
  | create info => info.command
  | destroy kind _ => kind.command
  | releaseConfiguration _ => .releasePerformanceConfigurationIntel
  | resetDescriptorPool .. => .resetDescriptorPool
  | allocateSets .. => .allocateDescriptorSets
  | freeSets .. => .freeDescriptorSets
  | updateSets .. => .updateDescriptorSets
  | updateSetWithTemplate .. => .updateDescriptorSetWithTemplate
  | pushSetWithTemplate .. => .cmdPushDescriptorSetWithTemplateKhr
  | pushSetWithTemplate2 .. => .cmdPushDescriptorSetWithTemplate2Khr
  | getDescriptor _ => .getDescriptorExt
  | beginRenderPass .. => .cmdBeginRenderPass
  | createGraphicsPipelines .. => .createGraphicsPipelines
  | createComputePipelines .. => .createComputePipelines
  | createRayTracingPipelines .. => .createRayTracingPipelinesKhr
  | allocateCommandBuffers .. => .allocateCommandBuffers
  | freeCommandBuffers .. => .freeCommandBuffers
  | beginCommandBuffer .. => .beginCommandBuffer
  | getSwapchainImages _ => .getSwapchainImagesKhr
  | acquireNextImage .. => .acquireNextImageKhr
  | present .. => .queuePresentKhr
  | joinOperation _ => .deferredOperationJoinKhr
  | queryOperation _ => .getDeferredOperationResultKhr
  | buildStructures .. => .buildAccelerationStructuresKhr
  | recordBuildStructures .. => .cmdBuildAccelerationStructuresKhr
  | getBuildSizes .. => .getAccelerationStructureBuildSizesKhr
  | labelObject .utils _ _ (.name _) => .setDebugUtilsObjectNameExt
  | labelObject .utils _ _ (.tag ..) => .setDebugUtilsObjectTagExt
  | labelObject .marker _ _ (.name _) => .debugMarkerSetObjectNameExt
  | labelObject .marker _ _ (.tag ..) => .debugMarkerSetObjectTagExt
  | exportMetalObjects _ => .exportMetalObjectsExt

/-- The chains of a request that the next layer may write outputs into, one for each
thing asked for. -/
def chains : DeviceRequest → List Chain
  | createGraphicsPipelines _ infos => infos.toList.map GraphicsInfo.chain
  | createComputePipelines _ infos => infos.toList.map ComputeInfo.chain
  | createRayTracingPipelines _ _ _ infos => infos.toList.map RayTracingInfo.chain
  | exportMetalObjects chain => [chain]
  | _ => []

/-- The number of handles that a request asks for, where it says so itself. -/
def handleCount? : DeviceRequest → Option Nat
  | create _ => some 1
  | allocateSets _ layouts => some layouts.count
  | createGraphicsPipelines _ infos => some infos.count
  | createComputePipelines _ infos => some infos.count
  | createRayTracingPipelines _ _ _ infos => some infos.count
  | allocateCommandBuffers _ _ count => some count.toNat
  | _ => none

/-- Every build as it is handed down, each with the ranges at its place. -/
def resolveBuilds (w : Wrapper) (ranges : Option (List (List BuildRange))) :
    AppArray BuildInfo → Noted (AppArray BuildInfo)
  | .null n => .quiet (.null n)
  | .elems infos =>
    (Noted.collect (infos.zipIdx.map fun (info, i) =>
      info.resolve w (ranges.bind fun rs => rs[i]?))).map .elems

/-- Whether the entry point asks itself if handles are wrapped, and hands down what the
application has passed when they are not.  The others have nothing to copy: they hand every
handle to the wrapper. -/
def isGuarded : DeviceRequest → Bool
  | create info => info.isGuarded
  | allocateSets .. | freeSets .. | updateSets .. | updateSetWithTemplate ..
  | pushSetWithTemplate .. | pushSetWithTemplate2 .. | getDescriptor _ | beginRenderPass ..
  | createGraphicsPipelines .. | createComputePipelines .. | createRayTracingPipelines ..
  | beginCommandBuffer .. | present .. | buildStructures .. | recordBuildStructures ..
  | getBuildSizes .. | exportMetalObjects _ => true
  | _ => false

/-- The request with the real handles, and with copies of its chains. -/
def resolveWrapped (w : Wrapper) (s : Shadows) : DeviceRequest → Noted DeviceRequest
  | destroyDevice => .quiet destroyDevice
  | create info => (info.resolve w).map create
  | destroy kind h => .quiet (destroy kind (w.unwrap h))
  | releaseConfiguration h => .quiet (releaseConfiguration (w.unwrap h))
  | resetDescriptorPool pool flags => .quiet (resetDescriptorPool (w.unwrap pool) flags)
  | allocateSets pool layouts =>
    .quiet (allocateSets (w.unwrap pool) (layouts.map w.unwrap))
  | freeSets pool sets => .quiet (freeSets (w.unwrap pool) (sets.map w.unwrap))
  | updateSets writes copies =>
    (resolveArray (DescriptorWrite.resolve w) writes).map fun writes =>
      updateSets writes (copies.map (DescriptorCopy.mapHandles w.unwrap))
  | updateSetWithTemplate set template data =>
    (s.rebuild w template data).map
      (updateSetWithTemplate (w.unwrap set) (w.unwrap template))
  | pushSetWithTemplate commandBuffer template layout setIndex data =>
    (s.rebuild w template data).map
      (pushSetWithTemplate commandBuffer (w.unwrap template) (w.unwrap layout) setIndex)
  | pushSetWithTemplate2 commandBuffer template layout setIndex data chain =>
    let copy := Chain.copy w chain.blocks
    let blob := s.rebuild w template data
    ⟨pushSetWithTemplate2 commandBuffer (w.unwrap template) (w.unwrap layout) setIndex
        blob.value copy.value,
      copy.notices ++ blob.notices⟩
  | getDescriptor query => .quiet (getDescriptor (query.resolve w))
  | beginRenderPass commandBuffer renderPass framebuffer contents chain =>
    (Chain.copy w chain.blocks).map
      (beginRenderPass commandBuffer (w.unwrap renderPass) (w.unwrap framebuffer) contents)
  | createGraphicsPipelines cache infos =>
    (resolveArray (GraphicsInfo.resolve w s.renderPasses) infos).map
      (createGraphicsPipelines (w.unwrap cache))
  | createComputePipelines cache infos =>
    (resolveArray (ComputeInfo.resolve w) infos).map
      (createComputePipelines (w.unwrap cache))
  | createRayTracingPipelines batch operation cache infos =>
    (resolveArray (RayTracingInfo.resolve w) infos).map
      (createRayTracingPipelines batch (w.unwrap operation) (w.unwrap cache))
  | allocateCommandBuffers pool level count =>
    .quiet (allocateCommandBuffers (w.unwrap pool) level count)
  | freeCommandBuffers pool buffers => .quiet (freeCommandBuffers (w.unwrap pool) buffers)
  | beginCommandBuffer commandBuffer flags inheritance =>
    .quiet (beginCommandBuffer commandBuffer flags
      (if s.secondaries.contains commandBuffer then
        inheritance.map (Inheritance.mapHandles w.unwrap)
      else inheritance))
  | getSwapchainImages swapchain => .quiet (getSwapchainImages (w.unwrap swapchain))
  | acquireNextImage swapchain timeout semaphore fence =>
    .quiet (acquireNextImage (w.unwrap swapchain) timeout (w.unwrap semaphore)
      (w.unwrap fence))
  | present queue info => (info.resolve w).map (present queue)
  | joinOperation operation => .quiet (joinOperation (w.unwrap operation))
  | queryOperation operation => .quiet (queryOperation (w.unwrap operation))
  | buildStructures operation infos ranges =>
    (resolveBuilds w ranges infos).map fun infos =>
      buildStructures (w.unwrap operation) infos ranges
  | recordBuildStructures commandBuffer infos ranges =>
    (resolveBuilds w none infos).map fun infos =>
      recordBuildStructures commandBuffer infos ranges
  | getBuildSizes buildType info => (info.resolve w none).map (getBuildSizes buildType)
  | labelObject extension type object label =>
    .quiet (labelObject extension type (w.unwrapOrKeep object) label)
  | exportMetalObjects chain =>
    (Chain.copy w chain.blocks).map exportMetalObjects

/-- The request as it is handed down. -/
def resolve (w : Wrapper) (s : Shadows) (r : DeviceRequest) : Noted DeviceRequest :=
  if r.isGuarded ∧ w.enabled = false then .quiet r else r.resolveWrapped w s

theorem resolve_of_enabled {w : Wrapper} (hw : w.enabled = true) (s : Shadows)
    (r : DeviceRequest) : r.resolve w s = r.resolveWrapped w s :=
  if_neg fun h => Bool.false_ne_true (h.2.symm.trans hw)

/-- A request is not touched when handles are not wrapped, whether the entry point asks or
not. -/
theorem resolve_of_disabled {w : Wrapper} (hw : w.enabled = false) (s : Shadows)
    (r : DeviceRequest) : r.resolve w s = .quiet r := by
  have hunwrap : w.unwrap = id := funext (Wrapper.unwrap_of_disabled hw)
  unfold resolve
  split
  · rfl
  · next hplain =>
    have hr : r.isGuarded = false := by simpa [hw] using hplain
    cases r with
    | create info => rw [resolveWrapped, info.resolve_of_disabled hw hr]; rfl
    | destroyDevice => rfl
    | destroy | releaseConfiguration | resetDescriptorPool | allocateCommandBuffers
    | freeCommandBuffers | getSwapchainImages | acquireNextImage | joinOperation
    | queryOperation => rw [resolveWrapped, hunwrap]; rfl
    | labelObject => rw [resolveWrapped, Wrapper.unwrapOrKeep_of_disabled hw]
    | _ => cases hr

end DeviceRequest

end HandleLayer
