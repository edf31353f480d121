import HandleLayer.Command
import HandleLayer.Descriptor.Write
import HandleLayer.RenderPass
import HandleLayer.Template

/-!
# Requests for single objects

Most objects are created one at a time from a description and destroyed one at a time.

## Main definitions

* `CreateInfo` — the descriptions, with the kind of object each one asks for.
* `CreateInfo.isGuarded` — the descriptions that go down untouched while nothing is wrapped.
* `CreateInfo.resolve` — the description as it is handed down.
* `Destroyable` — the kinds of object that are destroyed by a call of their own.
-/

namespace HandleLayer

/-- One binding of a descriptor set layout. -/
structure Binding where
  binding : UInt32
  type : DescriptorType
  count : UInt32
  /-- Samplers that never change, one for each descriptor; none is a null pointer. -/
  samplers : Option (List Handle)
  deriving DecidableEq, Repr, Inhabited

/-- The binding with its samplers replaced, if its type has any; otherwise the pointer may
be anything and is not followed. -/
def Binding.mapHandles (f : Handle → Handle) (b : Binding) : Binding :=
  match b.type with
  | .sampler | .combinedImageSampler => { b with samplers := b.samplers.map (·.map f) }
  | _ => b

/-- The two entry points that create render passes. -/
inductive RenderPassForm
  | first
  | second
  deriving DecidableEq, Repr, Inhabited

/-- The bit of a framebuffer whose attachments are given later. -/
def imagelessFlag : UInt32 := 1

/-- The description of one object to be created. -/
inductive CreateInfo
  | buffer (size : UInt64)
  | bufferView (buffer : Handle)
  | image (chain : Chain)
  | imageView (image : Handle) (chain : Chain)
  | sampler (chain : Chain)
  | shaderModule (chain : Chain)
  | semaphore
  | fence
  | memory (size : UInt64) (chain : Chain)
  | performanceConfiguration
  | descriptorSetLayout (bindings : AppArray Binding)
  | descriptorPool
  | updateTemplate (type : TemplateType) (setLayout pipelineLayout : Handle)
      (entries : AppArray TemplateEntry)
  | renderPass (form : RenderPassForm) (subpasses : AppArray Subpass)
  | framebuffer (flags : UInt32) (renderPass : Handle) (attachments : AppArray Handle)
  | pipelineCache
  | pipelineLayout (setLayouts : AppArray Handle)
  | commandPool
  | swapchain (surface old : Handle)
  | deferredOperation
  | accelerationStructure (buffer : Handle)
  deriving DecidableEq, Repr, Inhabited

namespace CreateInfo

/-- The command that creates the object. -/
def command : CreateInfo → Command
  | buffer _ => .createBuffer
  | bufferView _ => .createBufferView
  | image _ => .createImage
  | imageView .. => .createImageView
  | sampler _ => .createSampler
  | shaderModule _ => .createShaderModule
  | semaphore => .createSemaphore
  | fence => .createFence
  | memory .. => .allocateMemory
  | performanceConfiguration => .acquirePerformanceConfigurationIntel
  | descriptorSetLayout _ => .createDescriptorSetLayout
  | descriptorPool => .createDescriptorPool
  | updateTemplate .. => .createDescriptorUpdateTemplate
  | renderPass .first _ => .createRenderPass
  | renderPass .second _ => .createRenderPass2
  | framebuffer .. => .createFramebuffer
  | pipelineCache => .createPipelineCache
  | pipelineLayout _ => .createPipelineLayout
  | commandPool => .createCommandPool
  | swapchain .. => .createSwapchainKhr
  | deferredOperation => .createDeferredOperationKhr
  | accelerationStructure _ => .createAccelerationStructureKhr

/-- The kind of object that is created. -/
def objectType : CreateInfo → ObjectType
  | buffer _ => .buffer
  | bufferView _ => .bufferView
  | image _ => .image
  | imageView .. => .imageView
  | sampler _ => .sampler
  | shaderModule _ => .shaderModule
  | semaphore => .semaphore
  | fence => .fence
  | memory .. => .deviceMemory
  | performanceConfiguration => .performanceConfiguration
  | descriptorSetLayout _ => .descriptorSetLayout
  | descriptorPool => .descriptorPool
  | updateTemplate .. => .updateTemplate
  | renderPass .. => .renderPass
  | framebuffer .. => .framebuffer
  | pipelineCache => .pipelineCache
  | pipelineLayout _ => .pipelineLayout
  | commandPool => .commandPool
  | swapchain .. => .swapchain
  | deferredOperation => .deferredOperation
  | accelerationStructure _ => .accelerationStructure

/-- Whether the entry point asks itself if handles are wrapped, and hands down what the
application has passed when they are not. -/
def isGuarded : CreateInfo → Bool
  | image _ | imageView .. | sampler _ | shaderModule _ | memory .. | descriptorSetLayout _
  | updateTemplate .. | framebuffer .. => true
  | _ => false

/-- The description with the real handles, and with a copy of its chain.  Handles that do
not matter for the kind of template or framebuffer may be anything and are left alone. -/
def resolve (w : Wrapper) : CreateInfo → Noted CreateInfo
  | bufferView h => .quiet (bufferView (w.unwrap h))
  | image chain => (Chain.copy w chain.blocks).map image
  | imageView h chain => (Chain.copy w chain.blocks).map (imageView (w.unwrap h))
  | sampler chain => (Chain.copy w chain.blocks).map sampler
  | shaderModule chain => (Chain.copy w chain.blocks).map shaderModule
  | memory size chain => (Chain.copy w chain.blocks).map (memory size)
  | descriptorSetLayout bindings =>
    .quiet (descriptorSetLayout (bindings.map (Binding.mapHandles w.unwrap)))
  | updateTemplate type sets layout entries =>
    .quiet (updateTemplate type
      (if type = .descriptorSet then w.unwrap sets else sets)
      (if type = .pushDescriptors then w.unwrap layout else layout)
      entries)
  | framebuffer flags pass attachments =>
    .quiet (framebuffer flags (w.unwrap pass)
      (if flags &&& imagelessFlag ≠ 0 then attachments else attachments.map w.unwrap))
  | pipelineLayout sets => .quiet (pipelineLayout (sets.map w.unwrap))
  | swapchain surface old => .quiet (swapchain (w.unwrap surface) (w.unwrap old))
  | accelerationStructure h => .quiet (accelerationStructure (w.unwrap h))
  | info => .quiet info

/-- Where the entry point does not ask, the wrapper lets all handles through. -/
theorem resolve_of_disabled {w : Wrapper} (hw : w.enabled = false) {info : CreateInfo}
    (hinfo : info.isGuarded = false) : info.resolve w = .quiet info := by
  have hunwrap : w.unwrap = id := funext (Wrapper.unwrap_of_disabled hw)
  cases info with
  | bufferView | pipelineLayout | swapchain | accelerationStructure => simp [resolve, hunwrap]
  | image | imageView | sampler | shaderModule | memory | descriptorSetLayout | updateTemplate
  | framebuffer => cases hinfo
  | _ => rfl

end CreateInfo

/-- The kinds of object of a device that are destroyed by a call of their own. -/
inductive Destroyable
  | buffer
  | bufferView
  | image
  | imageView
  | sampler
  | shaderModule
  | semaphore
  | fence
  | memory
  | descriptorSetLayout
  | descriptorPool
  | updateTemplate
  | renderPass
  | framebuffer
  | pipelineCache
  | pipelineLayout
  | pipeline
  | commandPool
  | swapchain
  | deferredOperation
  | accelerationStructure
  deriving DecidableEq, Repr, Inhabited

namespace Destroyable

/-- The command that destroys the object. -/
def command : Destroyable → Command
  | buffer => .destroyBuffer
  | bufferView => .destroyBufferView
  | image => .destroyImage
  | imageView => .destroyImageView
  | sampler => .destroySampler
  | shaderModule => .destroyShaderModule
  | semaphore => .destroySemaphore
  | fence => .destroyFence
  | memory => .freeMemory
  | descriptorSetLayout => .destroyDescriptorSetLayout
  | descriptorPool => .destroyDescriptorPool
  | updateTemplate => .destroyDescriptorUpdateTemplate
  | renderPass => .destroyRenderPass
  | framebuffer => .destroyFramebuffer
  | pipelineCache => .destroyPipelineCache
  | pipelineLayout => .destroyPipelineLayout
  | pipeline => .destroyPipeline
  | commandPool => .destroyCommandPool
  | swapchain => .destroySwapchainKhr
  | deferredOperation => .destroyDeferredOperationKhr
  | accelerationStructure => .destroyAccelerationStructureKhr

/-- Every kind. -/
def all : List Destroyable :=
  [buffer, bufferView, image, imageView, sampler, shaderModule, semaphore, fence, memory,
    descriptorSetLayout, descriptorPool, updateTemplate, renderPass, framebuffer,
    pipelineCache, pipelineLayout, pipeline, commandPool, swapchain, deferredOperation,
    accelerationStructure]

/-- The kind of object that a command destroys. -/
def ofCommand? (c : Command) : Option Destroyable := all.find? fun k => k.command = c

/-- The kind of object. -/
def objectType : Destroyable → ObjectType
  | buffer => .buffer
  | bufferView => .bufferView
  | image => .image
  | imageView => .imageView
  | sampler => .sampler
  | shaderModule => .shaderModule
  | semaphore => .semaphore
  | fence => .fence
  | memory => .deviceMemory
  | descriptorSetLayout => .descriptorSetLayout
  | descriptorPool => .descriptorPool
  | updateTemplate => .updateTemplate
  | renderPass => .renderPass
  | framebuffer => .framebuffer
  | pipelineCache => .pipelineCache
  | pipelineLayout => .pipelineLayout
  | pipeline => .pipeline
  | commandPool => .commandPool
  | swapchain => .swapchain
  | deferredOperation => .deferredOperation
  | accelerationStructure => .accelerationStructure

end Destroyable

end HandleLayer
