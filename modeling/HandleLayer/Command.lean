/-!
# Commands

The entry points that the layer intercepts, as validation objects see them.

## Main definitions

* `Command`, `Command.all` — the commands, those of instances first.
* `Command.name`, `Command.spelled` — the names of the entry points, as they are and in
  lower case.
* `Command.isInstanceLevel`, `Command.returnsResult`.
-/

namespace HandleLayer

/-- An intercepted entry point. -/
inductive Command
  | destroyInstance
  | getPhysicalDeviceProperties
  | destroySurfaceKhr
  | getPhysicalDeviceDisplayPropertiesKhr
  | getPhysicalDeviceDisplayPlanePropertiesKhr
  | getDisplayPlaneSupportedDisplaysKhr
  | getDisplayModePropertiesKhr
  | getPhysicalDeviceDisplayProperties2Khr
  | getPhysicalDeviceDisplayPlaneProperties2Khr
  | getDisplayModeProperties2Khr
  | getPhysicalDeviceToolProperties
  | getPhysicalDeviceToolPropertiesExt
  | destroyDevice
  | createBuffer
  | destroyBuffer
  | createBufferView
  | destroyBufferView
  | createImage
  | destroyImage
  | createImageView
  | destroyImageView
  | createSampler
  | destroySampler
  | createShaderModule
  | destroyShaderModule
  | createSemaphore
  | destroySemaphore
  | createFence
  | destroyFence
  | allocateMemory
  | freeMemory
  | createDescriptorSetLayout
  | destroyDescriptorSetLayout
  | createDescriptorPool
  | destroyDescriptorPool
  | resetDescriptorPool
  | allocateDescriptorSets
  | freeDescriptorSets
  | updateDescriptorSets
  | createDescriptorUpdateTemplate
  | destroyDescriptorUpdateTemplate
  | updateDescriptorSetWithTemplate
  | cmdPushDescriptorSetWithTemplateKhr
  | cmdPushDescriptorSetWithTemplate2Khr
  | getDescriptorExt
  | createRenderPass
  | createRenderPass2
  | destroyRenderPass
  | createFramebuffer
  | destroyFramebuffer
  | cmdBeginRenderPass
  | createPipelineCache
  | destroyPipelineCache
  | createPipelineLayout
  | destroyPipelineLayout
  | createGraphicsPipelines
  | createComputePipelines
  | createRayTracingPipelinesKhr
  | destroyPipeline
  | createCommandPool
  | destroyCommandPool
  | allocateCommandBuffers
  | freeCommandBuffers
  | beginCommandBuffer
  | createSwapchainKhr
  | destroySwapchainKhr
  | getSwapchainImagesKhr
  | acquireNextImageKhr
  | queuePresentKhr
  | createDeferredOperationKhr
  | destroyDeferredOperationKhr
  | deferredOperationJoinKhr
  | getDeferredOperationResultKhr
  | createAccelerationStructureKhr
  | destroyAccelerationStructureKhr
  | buildAccelerationStructuresKhr
  | cmdBuildAccelerationStructuresKhr
  | getAccelerationStructureBuildSizesKhr
  | setDebugUtilsObjectNameExt
  | setDebugUtilsObjectTagExt
  | debugMarkerSetObjectNameExt
  | debugMarkerSetObjectTagExt
  | acquirePerformanceConfigurationIntel
  | releasePerformanceConfigurationIntel
  | exportMetalObjectsExt
  deriving DecidableEq, Repr, Inhabited

namespace Command

/-- Every command. -/
def all : List Command :=
  [destroyInstance, getPhysicalDeviceProperties, destroySurfaceKhr,
    getPhysicalDeviceDisplayPropertiesKhr, getPhysicalDeviceDisplayPlanePropertiesKhr,
    getDisplayPlaneSupportedDisplaysKhr, getDisplayModePropertiesKhr,
    getPhysicalDeviceDisplayProperties2Khr, getPhysicalDeviceDisplayPlaneProperties2Khr,
    getDisplayModeProperties2Khr, getPhysicalDeviceToolProperties,
    getPhysicalDeviceToolPropertiesExt, destroyDevice, createBuffer, destroyBuffer,
    createBufferView, destroyBufferView, createImage, destroyImage, createImageView,
    destroyImageView, createSampler, destroySampler, createShaderModule, destroyShaderModule,
    createSemaphore, destroySemaphore, createFence, destroyFence, allocateMemory, freeMemory,
    createDescriptorSetLayout, destroyDescriptorSetLayout, createDescriptorPool,
    destroyDescriptorPool, resetDescriptorPool, allocateDescriptorSets, freeDescriptorSets,
    updateDescriptorSets, createDescriptorUpdateTemplate, destroyDescriptorUpdateTemplate,
    updateDescriptorSetWithTemplate, cmdPushDescriptorSetWithTemplateKhr,
    cmdPushDescriptorSetWithTemplate2Khr, getDescriptorExt, createRenderPass, createRenderPass2,
    destroyRenderPass, createFramebuffer, destroyFramebuffer, cmdBeginRenderPass,
    createPipelineCache, destroyPipelineCache, createPipelineLayout, destroyPipelineLayout,
    createGraphicsPipelines, createComputePipelines, createRayTracingPipelinesKhr,
    destroyPipeline, createCommandPool, destroyCommandPool, allocateCommandBuffers,
    freeCommandBuffers, beginCommandBuffer, createSwapchainKhr, destroySwapchainKhr,
    getSwapchainImagesKhr, acquireNextImageKhr, queuePresentKhr, createDeferredOperationKhr,
    destroyDeferredOperationKhr, deferredOperationJoinKhr, getDeferredOperationResultKhr,
    createAccelerationStructureKhr, destroyAccelerationStructureKhr,
    buildAccelerationStructuresKhr, cmdBuildAccelerationStructuresKhr,
    getAccelerationStructureBuildSizesKhr, setDebugUtilsObjectNameExt,
    setDebugUtilsObjectTagExt, debugMarkerSetObjectNameExt, debugMarkerSetObjectTagExt,
    acquirePerformanceConfigurationIntel, releasePerformanceConfigurationIntel,
    exportMetalObjectsExt]

/-- The name of the entry point. -/
def name : Command → String
  | destroyInstance => "vkDestroyInstance"
  | getPhysicalDeviceProperties => "vkGetPhysicalDeviceProperties"
  | destroySurfaceKhr => "vkDestroySurfaceKHR"
  | getPhysicalDeviceDisplayPropertiesKhr => "vkGetPhysicalDeviceDisplayPropertiesKHR"
  | getPhysicalDeviceDisplayPlanePropertiesKhr => "vkGetPhysicalDeviceDisplayPlanePropertiesKHR"
  | getDisplayPlaneSupportedDisplaysKhr => "vkGetDisplayPlaneSupportedDisplaysKHR"
  | getDisplayModePropertiesKhr => "vkGetDisplayModePropertiesKHR"
  | getPhysicalDeviceDisplayProperties2Khr => "vkGetPhysicalDeviceDisplayProperties2KHR"
  | getPhysicalDeviceDisplayPlaneProperties2Khr => "vkGetPhysicalDeviceDisplayPlaneProperties2KHR"
  | getDisplayModeProperties2Khr => "vkGetDisplayModeProperties2KHR"
  | getPhysicalDeviceToolProperties => "vkGetPhysicalDeviceToolProperties"
  | getPhysicalDeviceToolPropertiesExt => "vkGetPhysicalDeviceToolPropertiesEXT"
  | destroyDevice => "vkDestroyDevice"
  | createBuffer => "vkCreateBuffer"
  | destroyBuffer => "vkDestroyBuffer"
  | createBufferView => "vkCreateBufferView"
  | destroyBufferView => "vkDestroyBufferView"
  | createImage => "vkCreateImage"
  | destroyImage => "vkDestroyImage"
  | createImageView => "vkCreateImageView"
  | destroyImageView => "vkDestroyImageView"
  | createSampler => "vkCreateSampler"
  | destroySampler => "vkDestroySampler"
  | createShaderModule => "vkCreateShaderModule"
  | destroyShaderModule => "vkDestroyShaderModule"
  | createSemaphore => "vkCreateSemaphore"
  | destroySemaphore => "vkDestroySemaphore"
  | createFence => "vkCreateFence"
  | destroyFence => "vkDestroyFence"
  | allocateMemory => "vkAllocateMemory"
  | freeMemory => "vkFreeMemory"
  | createDescriptorSetLayout => "vkCreateDescriptorSetLayout"
  | destroyDescriptorSetLayout => "vkDestroyDescriptorSetLayout"
  | createDescriptorPool => "vkCreateDescriptorPool"
  | destroyDescriptorPool => "vkDestroyDescriptorPool"
  | resetDescriptorPool => "vkResetDescriptorPool"
  | allocateDescriptorSets => "vkAllocateDescriptorSets"
  | freeDescriptorSets => "vkFreeDescriptorSets"
  | updateDescriptorSets => "vkUpdateDescriptorSets"
  | createDescriptorUpdateTemplate => "vkCreateDescriptorUpdateTemplate"
  | destroyDescriptorUpdateTemplate => "vkDestroyDescriptorUpdateTemplate"
  | updateDescriptorSetWithTemplate => "vkUpdateDescriptorSetWithTemplate"
  | cmdPushDescriptorSetWithTemplateKhr => "vkCmdPushDescriptorSetWithTemplateKHR"
  | cmdPushDescriptorSetWithTemplate2Khr => "vkCmdPushDescriptorSetWithTemplate2KHR"
  | getDescriptorExt => "vkGetDescriptorEXT"
  | createRenderPass => "vkCreateRenderPass"
  | createRenderPass2 => "vkCreateRenderPass2"
  | destroyRenderPass => "vkDestroyRenderPass"
  | createFramebuffer => "vkCreateFramebuffer"
  | destroyFramebuffer => "vkDestroyFramebuffer"
  | cmdBeginRenderPass => "vkCmdBeginRenderPass"
  | createPipelineCache => "vkCreatePipelineCache"
  | destroyPipelineCache => "vkDestroyPipelineCache"
  | createPipelineLayout => "vkCreatePipelineLayout"
  | destroyPipelineLayout => "vkDestroyPipelineLayout"
  | createGraphicsPipelines => "vkCreateGraphicsPipelines"
  | createComputePipelines => "vkCreateComputePipelines"
  | createRayTracingPipelinesKhr => "vkCreateRayTracingPipelinesKHR"
  | destroyPipeline => "vkDestroyPipeline"
  | createCommandPool => "vkCreateCommandPool"
  | destroyCommandPool => "vkDestroyCommandPool"
  | allocateCommandBuffers => "vkAllocateCommandBuffers"
  | freeCommandBuffers => "vkFreeCommandBuffers"
  | beginCommandBuffer => "vkBeginCommandBuffer"
  | createSwapchainKhr => "vkCreateSwapchainKHR"
  | destroySwapchainKhr => "vkDestroySwapchainKHR"
  | getSwapchainImagesKhr => "vkGetSwapchainImagesKHR"
  | acquireNextImageKhr => "vkAcquireNextImageKHR"
  | queuePresentKhr => "vkQueuePresentKHR"
  | createDeferredOperationKhr => "vkCreateDeferredOperationKHR"
  | destroyDeferredOperationKhr => "vkDestroyDeferredOperationKHR"
  | deferredOperationJoinKhr => "vkDeferredOperationJoinKHR"
  | getDeferredOperationResultKhr => "vkGetDeferredOperationResultKHR"
  | createAccelerationStructureKhr => "vkCreateAccelerationStructureKHR"
  | destroyAccelerationStructureKhr => "vkDestroyAccelerationStructureKHR"
  | buildAccelerationStructuresKhr => "vkBuildAccelerationStructuresKHR"
  | cmdBuildAccelerationStructuresKhr => "vkCmdBuildAccelerationStructuresKHR"
  | getAccelerationStructureBuildSizesKhr => "vkGetAccelerationStructureBuildSizesKHR"
  | setDebugUtilsObjectNameExt => "vkSetDebugUtilsObjectNameEXT"
  | setDebugUtilsObjectTagExt => "vkSetDebugUtilsObjectTagEXT"
  | debugMarkerSetObjectNameExt => "vkDebugMarkerSetObjectNameEXT"
  | debugMarkerSetObjectTagExt => "vkDebugMarkerSetObjectTagEXT"
  | acquirePerformanceConfigurationIntel => "vkAcquirePerformanceConfigurationINTEL"
  | releasePerformanceConfigurationIntel => "vkReleasePerformanceConfigurationINTEL"
  | exportMetalObjectsExt => "vkExportMetalObjectsEXT"

/-- The command of the entry point with this name. -/
def ofName? (s : String) : Option Command := all.find? fun c => c.name == s

/-- Puts an underscore in front of every capital letter that follows another character,
and writes all in lower case; `capital` says whether a capital letter came before. -/
def spell : (capital : Bool) → List Char → List Char
  | _, [] => []
  | capital, c :: rest =>
    if c.isUpper then
      if capital then c.toLower :: spell true rest else '_' :: c.toLower :: spell true rest
    else c :: spell false rest

/-- The name of the entry point after its first two letters, in lower case with
underscores between its words. -/
def spelled (c : Command) : String :=
  String.ofList (spell true (c.name.toList.drop 2))

/-- The entry point with this name in lower case. -/
def ofSpelled? (s : String) : Option Command := all.find? fun c => c.spelled == s

/-- Whether the entry point is reached through an instance, and not through a device. -/
def isInstanceLevel : Command → Bool
  | destroyInstance | getPhysicalDeviceProperties | destroySurfaceKhr
  | getPhysicalDeviceDisplayPropertiesKhr | getPhysicalDeviceDisplayPlanePropertiesKhr
  | getDisplayPlaneSupportedDisplaysKhr | getDisplayModePropertiesKhr
  | getPhysicalDeviceDisplayProperties2Khr | getPhysicalDeviceDisplayPlaneProperties2Khr
  | getDisplayModeProperties2Khr | getPhysicalDeviceToolProperties
  | getPhysicalDeviceToolPropertiesExt => true
  | _ => false

/-- Whether the entry point returns a result. -/
def returnsResult : Command → Bool
  | destroyInstance | getPhysicalDeviceProperties | destroySurfaceKhr | destroyDevice
  | destroyBuffer | destroyBufferView | destroyImage | destroyImageView | destroySampler
  | destroyShaderModule | destroySemaphore | destroyFence | freeMemory
  | destroyDescriptorSetLayout | destroyDescriptorPool | updateDescriptorSets
  | destroyDescriptorUpdateTemplate | updateDescriptorSetWithTemplate
  | cmdPushDescriptorSetWithTemplateKhr | cmdPushDescriptorSetWithTemplate2Khr
  | getDescriptorExt | destroyRenderPass | destroyFramebuffer | cmdBeginRenderPass
  | destroyPipelineCache | destroyPipelineLayout | destroyPipeline | destroyCommandPool
  | freeCommandBuffers | destroySwapchainKhr | destroyDeferredOperationKhr
  | destroyAccelerationStructureKhr | cmdBuildAccelerationStructuresKhr
  | getAccelerationStructureBuildSizesKhr | exportMetalObjectsExt => false
  | _ => true

theorem mem_all (c : Command) : c ∈ all := by cases c <;> decide

end Command

end HandleLayer
