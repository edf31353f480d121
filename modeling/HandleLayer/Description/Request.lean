import HandleLayer.Description.Call

/-!
# Described requests

What the application asks for is described by an entry point and its arguments.

## Main definitions

* `DeviceRequest.ofDatum?`, `InstanceRequest.ofDatum?` — the request, if the entry point
  belongs to a device or to an instance.
-/

namespace HandleLayer

/-! ### Requests to a device -/

/-- The object that an entry point is to create. -/
def CreateInfo.ofDatum? (names : Names) (c : Command) (d : Datum) : Option CreateInfo :=
  let h (key : String) : Handle := (d.get key).word names
  let hs (key : String) : AppArray Handle := (d.get key).handles names
  let subpasses := (d.get "subpasses").array Subpass.ofDatum
  match c with
  | .createBuffer => some (buffer (h "size"))
  | .createBufferView => some (bufferView (h "buffer"))
  | .createImage => some (image (d.chain names))
  | .createImageView => some (imageView (h "image") (d.chain names))
  | .createSampler => some (sampler (d.chain names))
  | .createShaderModule => some (shaderModule (d.chain names))
  | .createSemaphore => some semaphore
  | .createFence => some fence
  | .allocateMemory => some (memory (h "size") (d.chain names))
  | .acquirePerformanceConfigurationIntel => some performanceConfiguration
  | .createDescriptorSetLayout =>
    some (descriptorSetLayout ((d.get "bindings").array (Binding.ofDatum names)))
  | .createDescriptorPool => some descriptorPool
  | .createDescriptorUpdateTemplate =>
    some (updateTemplate (.ofCode (d.get "type").int) (h "set_layout") (h "pipeline_layout")
      (d.entries names))
  | .createRenderPass => some (renderPass .first subpasses)
  | .createRenderPass2 => some (renderPass .second subpasses)
  | .createFramebuffer =>
    some (framebuffer (d.get "flags").u32 (h "render_pass") (hs "attachments"))
  | .createPipelineCache => some pipelineCache
  | .createPipelineLayout => some (pipelineLayout (hs "set_layouts"))
  | .createCommandPool => some commandPool
  | .createSwapchainKhr => some (swapchain (h "surface") (h "old"))
  | .createDeferredOperationKhr => some deferredOperation
  | .createAccelerationStructureKhr => some (accelerationStructure (h "buffer"))
  | _ => none

/-- A name or a tag for an object. -/
def DeviceRequest.labelOfDatum (names : Names) (extension : DebugExtension)
    (label : DebugLabel) (d : Datum) : DeviceRequest :=
  labelObject extension (d.get "type").int ((d.get "object").word names) label

/-- The name that is given; one that is left out is a null pointer. -/
def DebugLabel.nameOfDatum (d : Datum) : DebugLabel := name (d.get "name").string?

/-- The tag with this number and these bytes. -/
def DebugLabel.tagOfDatum (names : Names) (d : Datum) : DebugLabel :=
  tag ((d.get "tag_name").word names) (d.get "tag").bytes

/-- The ranges of all builds, unless there are to be none. -/
def Datum.allBuildRanges (d : Datum) : Option (List (List BuildRange)) :=
  if (d.get "no_ranges").isTrue then none
  else some ((d.get "infos").items.map Datum.buildRanges)

/-- The request to a device that neither creates nor destroys a single object. -/
def DeviceRequest.otherOfDatum? (names : Names) (batch : BatchId) (c : Command) (d : Datum) :
    Option DeviceRequest :=
  let h (key : String) : Handle := (d.get key).word names
  let hs (key : String) : AppArray Handle := (d.get key).handles names
  let infos {α : Type} (read : Datum → α) : AppArray α := (d.get "infos").array read
  let data := (d.get "data").blob names
  match c with
  | .destroyDevice => some destroyDevice
  | .releasePerformanceConfigurationIntel => some (releaseConfiguration (h "handle"))
  | .resetDescriptorPool => some (resetDescriptorPool (h "handle") (d.get "flags").u32)
  | .allocateDescriptorSets => some (allocateSets (h "pool") (hs "layouts"))
  | .freeDescriptorSets => some (freeSets (h "pool") (hs "sets"))
  | .updateDescriptorSets =>
    some (updateSets ((d.get "writes").array (DescriptorWrite.ofDatum names))
      ((d.get "copies").array (DescriptorCopy.ofDatum names)))
  | .updateDescriptorSetWithTemplate =>
    some (updateSetWithTemplate (h "set") (h "template") data)
  | .cmdPushDescriptorSetWithTemplateKhr =>
    some (pushSetWithTemplate (h "command_buffer") (h "template") (h "layout")
      (d.get "set_index").u32 data)
  | .cmdPushDescriptorSetWithTemplate2Khr =>
    some (pushSetWithTemplate2 (h "command_buffer") (h "template") (h "layout")
      (d.get "set_index").u32 data (d.chain names))
  | .getDescriptorExt => some (getDescriptor (.ofDatum names d))
  | .cmdBeginRenderPass =>
    some (beginRenderPass (h "command_buffer") (h "render_pass") (h "framebuffer")
      (d.get "contents").int (d.chain names))
  | .createGraphicsPipelines =>
    some (createGraphicsPipelines (h "cache") (infos (GraphicsInfo.ofDatum names)))
  | .createComputePipelines =>
    some (createComputePipelines (h "cache") (infos (ComputeInfo.ofDatum names)))
  | .createRayTracingPipelinesKhr =>
    some (createRayTracingPipelines batch (h "operation") (h "cache")
      (infos (RayTracingInfo.ofDatum names)))
  | .allocateCommandBuffers =>
    some (allocateCommandBuffers (h "pool") (.ofCode (d.get "level").int) (d.get "count").u32)
  | .freeCommandBuffers => some (freeCommandBuffers (h "pool") (hs "buffers"))
  | .beginCommandBuffer =>
    some (beginCommandBuffer (h "command_buffer") (d.get "flags").u32
      ((d.get "inheritance").optional (Inheritance.ofDatum names)))
  | .getSwapchainImagesKhr => some (getSwapchainImages (h "handle"))
  | .acquireNextImageKhr =>
    some (acquireNextImage (h "swapchain") (h "timeout") (h "semaphore") (h "fence"))
  | .queuePresentKhr => some (present (h "queue") (.ofDatum names d))
  | .deferredOperationJoinKhr => some (joinOperation (h "operation"))
  | .getDeferredOperationResultKhr => some (queryOperation (h "operation"))
  | .buildAccelerationStructuresKhr =>
    some (buildStructures (h "operation") (infos (BuildInfo.ofDatum names)) d.allBuildRanges)
  | .cmdBuildAccelerationStructuresKhr =>
    some (recordBuildStructures (h "command_buffer") (infos (BuildInfo.ofDatum names))
      d.allBuildRanges)
  | .getAccelerationStructureBuildSizesKhr =>
    some (getBuildSizes (d.get "build_type").int (.ofDatum names (d.get "info")))
  | .setDebugUtilsObjectNameExt => some (labelOfDatum names .utils (.nameOfDatum d) d)
  | .setDebugUtilsObjectTagExt => some (labelOfDatum names .utils (.tagOfDatum names d) d)
  | .debugMarkerSetObjectNameExt => some (labelOfDatum names .marker (.nameOfDatum d) d)
  | .debugMarkerSetObjectTagExt => some (labelOfDatum names .marker (.tagOfDatum names d) d)
  | .exportMetalObjectsExt => some (exportMetalObjects (d.chain names))
  | _ => none

/-- The request to a device; late outputs go to the place `batch`. -/
def DeviceRequest.ofDatum? (names : Names) (batch : BatchId) (c : Command) (d : Datum) :
    Option DeviceRequest :=
  match Destroyable.ofCommand? c with
  | some kind => some (destroy kind ((d.get "handle").word names))
  | none =>
    match CreateInfo.ofDatum? names c d with
    | some info => some (create info)
    | none => otherOfDatum? names batch c d

/-! ### Requests to an instance -/

/-- The physical device of a description that names none. -/
def defaultPhysicalDevice : Handle := 0xb000

/-- The physical device under the key of that name. -/
def Datum.physicalDevice (names : Names) (d : Datum) : Handle :=
  ((d.get "pd").optional (Datum.word names)).getD defaultPhysicalDevice

/-- The request to an instance. -/
def InstanceRequest.ofDatum? (names : Names) (c : Command) (d : Datum) :
    Option InstanceRequest :=
  let pd := d.physicalDevice names
  let display := (d.get "display").word names
  let capacity := (d.get "capacity").u32
  match c with
  | .destroyInstance => some destroyInstance
  | .getPhysicalDeviceProperties => some (physicalDeviceProperties pd)
  | .destroySurfaceKhr => some (destroySurface ((d.get "handle").word names))
  | .getPhysicalDeviceDisplayPropertiesKhr => some (displays .displays pd)
  | .getPhysicalDeviceDisplayPlanePropertiesKhr => some (displays .planes pd)
  | .getDisplayPlaneSupportedDisplaysKhr =>
    some (displays (.supportedDisplays (d.get "plane").u32) pd)
  | .getPhysicalDeviceDisplayProperties2Khr => some (displays .displays2 pd)
  | .getPhysicalDeviceDisplayPlaneProperties2Khr => some (displays .planes2 pd)
  | .getDisplayModePropertiesKhr => some (modes .modes pd display)
  | .getDisplayModeProperties2Khr => some (modes .modes2 pd display)
  | .getPhysicalDeviceToolProperties => some (tools .core pd capacity)
  | .getPhysicalDeviceToolPropertiesExt => some (tools .extension pd capacity)
  | _ => none

end HandleLayer
