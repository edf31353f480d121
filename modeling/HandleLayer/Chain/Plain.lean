/-!
# Plain structures

Structures of a chain that hold no handle and no output.  They are copied word for word;
pointers inside them are shared with the application.

## Main definitions

* `PlainType` — the structure types of this kind.
* `PlainType.code`, `PlainType.name`, `PlainType.words` — number, name and size.
-/

namespace HandleLayer

/-- A type of structure without handles and outputs. -/
inductive PlainType
  | pipelineRobustnessCreateInfoExt
  | pipelineCreateFlags2CreateInfoKhr
  | pipelineCompilerControlCreateInfoAmd
  | graphicsPipelineLibraryCreateInfoExt
  | pipelineDiscardRectangleStateCreateInfoExt
  | pipelineFragmentShadingRateStateCreateInfoKhr
  | pipelineFragmentShadingRateEnumStateCreateInfoNv
  | pipelineRepresentativeFragmentTestStateCreateInfoNv
  | attachmentSampleCountInfoAmd
  | multiviewPerViewAttributesInfoNvx
  | renderingAttachmentLocationInfoKhr
  | renderingInputAttachmentIndexInfoKhr
  | externalFormatAndroid
  | computePipelineIndirectBufferInfoNv
  | dedicatedAllocationImageCreateInfoNv
  | externalMemoryImageCreateInfoNv
  | externalMemoryImageCreateInfo
  | imageFormatListCreateInfo
  | imageDrmFormatModifierListCreateInfoExt
  | imageDrmFormatModifierExplicitCreateInfoExt
  | imageStencilUsageCreateInfo
  | imageCompressionControlExt
  | videoProfileListInfoKhr
  | opaqueCaptureDescriptorDataCreateInfoExt
  | bufferCollectionImageCreateInfoFuchsia
  | exportMetalObjectCreateInfoExt
  | importMetalTextureInfoExt
  | importMetalIoSurfaceInfoExt
  | opticalFlowImageFormatInfoNv
  | externalFormatQnx
  | imageViewUsageCreateInfo
  | imageViewSlicedCreateInfoExt
  | imageViewAstcDecodeModeExt
  | imageViewMinLodCreateInfoExt
  | imageViewSampleWeightCreateInfoQcom
  | samplerReductionModeCreateInfo
  | samplerCustomBorderColorCreateInfoExt
  | samplerBorderColorComponentMappingCreateInfoExt
  | samplerCubicWeightsCreateInfoQcom
  | samplerBlockMatchWindowCreateInfoQcom
  | memoryAllocateFlagsInfo
  | memoryOpaqueCaptureAddressAllocateInfo
  | memoryPriorityAllocateInfoExt
  | exportMemoryAllocateInfo
  | exportMemoryAllocateInfoNv
  | exportMemoryWin32HandleInfoKhr
  | exportMemoryWin32HandleInfoNv
  | importMemoryWin32HandleInfoKhr
  | importMemoryWin32HandleInfoNv
  | importMemoryFdInfoKhr
  | importMemoryHostPointerInfoExt
  | importMemoryZirconHandleInfoFuchsia
  | importMemoryBufferCollectionFuchsia
  | importAndroidHardwareBufferInfoAndroid
  | importMetalBufferInfoExt
  | importScreenBufferInfoQnx
  | writeDescriptorSetInlineUniformBlock
  | presentIdKhr
  | presentRegionsKhr
  | presentTimesInfoGoogle
  | presentFrameTokenGgp
  | displayPresentInfoKhr
  | deviceGroupPresentInfoKhr
  | swapchainPresentModeInfoExt
  | deviceGroupRenderPassBeginInfo
  | renderPassSampleLocationsBeginInfoExt
  | renderPassTransformBeginInfoQcom
  | multiviewPerViewRenderAreasRenderPassBeginInfoQcom
  | renderPassStripeBeginInfoArm
  | accelerationStructureGeometryMotionTrianglesDataNv
  deriving DecidableEq, Repr

namespace PlainType

/-- Every plain type. -/
def all : List PlainType :=
  [pipelineRobustnessCreateInfoExt, pipelineCreateFlags2CreateInfoKhr,
    pipelineCompilerControlCreateInfoAmd, graphicsPipelineLibraryCreateInfoExt,
    pipelineDiscardRectangleStateCreateInfoExt, pipelineFragmentShadingRateStateCreateInfoKhr,
    pipelineFragmentShadingRateEnumStateCreateInfoNv,
    pipelineRepresentativeFragmentTestStateCreateInfoNv, attachmentSampleCountInfoAmd,
    multiviewPerViewAttributesInfoNvx, renderingAttachmentLocationInfoKhr,
    renderingInputAttachmentIndexInfoKhr, externalFormatAndroid,
    computePipelineIndirectBufferInfoNv, dedicatedAllocationImageCreateInfoNv,
    externalMemoryImageCreateInfoNv, externalMemoryImageCreateInfo, imageFormatListCreateInfo,
    imageDrmFormatModifierListCreateInfoExt, imageDrmFormatModifierExplicitCreateInfoExt,
    imageStencilUsageCreateInfo, imageCompressionControlExt, videoProfileListInfoKhr,
    opaqueCaptureDescriptorDataCreateInfoExt, bufferCollectionImageCreateInfoFuchsia,
    exportMetalObjectCreateInfoExt, importMetalTextureInfoExt, importMetalIoSurfaceInfoExt,
    opticalFlowImageFormatInfoNv, externalFormatQnx, imageViewUsageCreateInfo,
    imageViewSlicedCreateInfoExt, imageViewAstcDecodeModeExt, imageViewMinLodCreateInfoExt,
    imageViewSampleWeightCreateInfoQcom, samplerReductionModeCreateInfo,
    samplerCustomBorderColorCreateInfoExt, samplerBorderColorComponentMappingCreateInfoExt,
    samplerCubicWeightsCreateInfoQcom, samplerBlockMatchWindowCreateInfoQcom,
    memoryAllocateFlagsInfo, memoryOpaqueCaptureAddressAllocateInfo,
    memoryPriorityAllocateInfoExt, exportMemoryAllocateInfo, exportMemoryAllocateInfoNv,
    exportMemoryWin32HandleInfoKhr, exportMemoryWin32HandleInfoNv,
    importMemoryWin32HandleInfoKhr, importMemoryWin32HandleInfoNv, importMemoryFdInfoKhr,
    importMemoryHostPointerInfoExt, importMemoryZirconHandleInfoFuchsia,
    importMemoryBufferCollectionFuchsia, importAndroidHardwareBufferInfoAndroid,
    importMetalBufferInfoExt, importScreenBufferInfoQnx, writeDescriptorSetInlineUniformBlock,
    presentIdKhr, presentRegionsKhr, presentTimesInfoGoogle, presentFrameTokenGgp,
    displayPresentInfoKhr, deviceGroupPresentInfoKhr, swapchainPresentModeInfoExt,
    deviceGroupRenderPassBeginInfo, renderPassSampleLocationsBeginInfoExt,
    renderPassTransformBeginInfoQcom, multiviewPerViewRenderAreasRenderPassBeginInfoQcom,
    renderPassStripeBeginInfoArm, accelerationStructureGeometryMotionTrianglesDataNv]

/-- The number of the structure type. -/
def code : PlainType → Int
  | pipelineRobustnessCreateInfoExt => 1000068000
  | pipelineCreateFlags2CreateInfoKhr => 1000470005
  | pipelineCompilerControlCreateInfoAmd => 1000183000
  | graphicsPipelineLibraryCreateInfoExt => 1000320002
  | pipelineDiscardRectangleStateCreateInfoExt => 1000099001
  | pipelineFragmentShadingRateStateCreateInfoKhr => 1000226001
  | pipelineFragmentShadingRateEnumStateCreateInfoNv => 1000326002
  | pipelineRepresentativeFragmentTestStateCreateInfoNv => 1000166001
  | attachmentSampleCountInfoAmd => 1000044008
  | multiviewPerViewAttributesInfoNvx => 1000044009
  | renderingAttachmentLocationInfoKhr => 1000232001
  | renderingInputAttachmentIndexInfoKhr => 1000232002
  | externalFormatAndroid => 1000129005
  | computePipelineIndirectBufferInfoNv => 1000428001
  | dedicatedAllocationImageCreateInfoNv => 1000026000
  | externalMemoryImageCreateInfoNv => 1000056000
  | externalMemoryImageCreateInfo => 1000072001
  | imageFormatListCreateInfo => 1000147000
  | imageDrmFormatModifierListCreateInfoExt => 1000158003
  | imageDrmFormatModifierExplicitCreateInfoExt => 1000158004
  | imageStencilUsageCreateInfo => 1000246000
  | imageCompressionControlExt => 1000338001
  | videoProfileListInfoKhr => 1000023013
  | opaqueCaptureDescriptorDataCreateInfoExt => 1000316010
  | bufferCollectionImageCreateInfoFuchsia => 1000366002
  | exportMetalObjectCreateInfoExt => 1000311000
  | importMetalTextureInfoExt => 1000311007
  | importMetalIoSurfaceInfoExt => 1000311009
  | opticalFlowImageFormatInfoNv => 1000464002
  | externalFormatQnx => 1000529003
  | imageViewUsageCreateInfo => 1000117002
  | imageViewSlicedCreateInfoExt => 1000418001
  | imageViewAstcDecodeModeExt => 1000067000
  | imageViewMinLodCreateInfoExt => 1000391001
  | imageViewSampleWeightCreateInfoQcom => 1000440002
  | samplerReductionModeCreateInfo => 1000130001
  | samplerCustomBorderColorCreateInfoExt => 1000287000
  | samplerBorderColorComponentMappingCreateInfoExt => 1000411001
  | samplerCubicWeightsCreateInfoQcom => 1000519000
  | samplerBlockMatchWindowCreateInfoQcom => 1000518002
  | memoryAllocateFlagsInfo => 1000060000
  | memoryOpaqueCaptureAddressAllocateInfo => 1000257003
  | memoryPriorityAllocateInfoExt => 1000238001
  | exportMemoryAllocateInfo => 1000072002
  | exportMemoryAllocateInfoNv => 1000056001
  | exportMemoryWin32HandleInfoKhr => 1000073001
  | exportMemoryWin32HandleInfoNv => 1000057001
  | importMemoryWin32HandleInfoKhr => 1000073000
  | importMemoryWin32HandleInfoNv => 1000057000
  | importMemoryFdInfoKhr => 1000074000
  | importMemoryHostPointerInfoExt => 1000178000
  | importMemoryZirconHandleInfoFuchsia => 1000364000
  | importMemoryBufferCollectionFuchsia => 1000366001
  | importAndroidHardwareBufferInfoAndroid => 1000129003
  | importMetalBufferInfoExt => 1000311005
  | importScreenBufferInfoQnx => 1000529002
  | writeDescriptorSetInlineUniformBlock => 1000138002
  | presentIdKhr => 1000294000
  | presentRegionsKhr => 1000084000
  | presentTimesInfoGoogle => 1000092000
  | presentFrameTokenGgp => 1000191000
  | displayPresentInfoKhr => 1000003000
  | deviceGroupPresentInfoKhr => 1000060011
  | swapchainPresentModeInfoExt => 1000275003
  | deviceGroupRenderPassBeginInfo => 1000060003
  | renderPassSampleLocationsBeginInfoExt => 1000143001
  | renderPassTransformBeginInfoQcom => 1000282001
  | multiviewPerViewRenderAreasRenderPassBeginInfoQcom => 1000510001
  | renderPassStripeBeginInfoArm => 1000424002
  | accelerationStructureGeometryMotionTrianglesDataNv => 1000327000

/-- The name of the structure type. -/
def name : PlainType → String
  | pipelineRobustnessCreateInfoExt => "PIPELINE_ROBUSTNESS_CREATE_INFO_EXT"
  | pipelineCreateFlags2CreateInfoKhr => "PIPELINE_CREATE_FLAGS_2_CREATE_INFO_KHR"
  | pipelineCompilerControlCreateInfoAmd => "PIPELINE_COMPILER_CONTROL_CREATE_INFO_AMD"
  | graphicsPipelineLibraryCreateInfoExt => "GRAPHICS_PIPELINE_LIBRARY_CREATE_INFO_EXT"
  | pipelineDiscardRectangleStateCreateInfoExt => "PIPELINE_DISCARD_RECTANGLE_STATE_CREATE_INFO_EXT"
  | pipelineFragmentShadingRateStateCreateInfoKhr => "PIPELINE_FRAGMENT_SHADING_RATE_STATE_CREATE_INFO_KHR"
  | pipelineFragmentShadingRateEnumStateCreateInfoNv => "PIPELINE_FRAGMENT_SHADING_RATE_ENUM_STATE_CREATE_INFO_NV"
  | pipelineRepresentativeFragmentTestStateCreateInfoNv => "PIPELINE_REPRESENTATIVE_FRAGMENT_TEST_STATE_CREATE_INFO_NV"
  | attachmentSampleCountInfoAmd => "ATTACHMENT_SAMPLE_COUNT_INFO_AMD"
  | multiviewPerViewAttributesInfoNvx => "MULTIVIEW_PER_VIEW_ATTRIBUTES_INFO_NVX"
  | renderingAttachmentLocationInfoKhr => "RENDERING_ATTACHMENT_LOCATION_INFO_KHR"
  | renderingInputAttachmentIndexInfoKhr => "RENDERING_INPUT_ATTACHMENT_INDEX_INFO_KHR"
  | externalFormatAndroid => "EXTERNAL_FORMAT_ANDROID"
  | computePipelineIndirectBufferInfoNv => "COMPUTE_PIPELINE_INDIRECT_BUFFER_INFO_NV"
  | dedicatedAllocationImageCreateInfoNv => "DEDICATED_ALLOCATION_IMAGE_CREATE_INFO_NV"
  | externalMemoryImageCreateInfoNv => "EXTERNAL_MEMORY_IMAGE_CREATE_INFO_NV"
  | externalMemoryImageCreateInfo => "EXTERNAL_MEMORY_IMAGE_CREATE_INFO"
  | imageFormatListCreateInfo => "IMAGE_FORMAT_LIST_CREATE_INFO"
  | imageDrmFormatModifierListCreateInfoExt => "IMAGE_DRM_FORMAT_MODIFIER_LIST_CREATE_INFO_EXT"
  | imageDrmFormatModifierExplicitCreateInfoExt => "IMAGE_DRM_FORMAT_MODIFIER_EXPLICIT_CREATE_INFO_EXT"
  | imageStencilUsageCreateInfo => "IMAGE_STENCIL_USAGE_CREATE_INFO"
  | imageCompressionControlExt => "IMAGE_COMPRESSION_CONTROL_EXT"
  | videoProfileListInfoKhr => "VIDEO_PROFILE_LIST_INFO_KHR"
  | opaqueCaptureDescriptorDataCreateInfoExt => "OPAQUE_CAPTURE_DESCRIPTOR_DATA_CREATE_INFO_EXT"
  | bufferCollectionImageCreateInfoFuchsia => "BUFFER_COLLECTION_IMAGE_CREATE_INFO_FUCHSIA"
  | exportMetalObjectCreateInfoExt => "EXPORT_METAL_OBJECT_CREATE_INFO_EXT"
  | importMetalTextureInfoExt => "IMPORT_METAL_TEXTURE_INFO_EXT"
  | importMetalIoSurfaceInfoExt => "IMPORT_METAL_IO_SURFACE_INFO_EXT"
  | opticalFlowImageFormatInfoNv => "OPTICAL_FLOW_IMAGE_FORMAT_INFO_NV"
  | externalFormatQnx => "EXTERNAL_FORMAT_QNX"
  | imageViewUsageCreateInfo => "IMAGE_VIEW_USAGE_CREATE_INFO"
  | imageViewSlicedCreateInfoExt => "IMAGE_VIEW_SLICED_CREATE_INFO_EXT"
  | imageViewAstcDecodeModeExt => "IMAGE_VIEW_ASTC_DECODE_MODE_EXT"
  | imageViewMinLodCreateInfoExt => "IMAGE_VIEW_MIN_LOD_CREATE_INFO_EXT"
  | imageViewSampleWeightCreateInfoQcom => "IMAGE_VIEW_SAMPLE_WEIGHT_CREATE_INFO_QCOM"
  | samplerReductionModeCreateInfo => "SAMPLER_REDUCTION_MODE_CREATE_INFO"
  | samplerCustomBorderColorCreateInfoExt => "SAMPLER_CUSTOM_BORDER_COLOR_CREATE_INFO_EXT"
  | samplerBorderColorComponentMappingCreateInfoExt => "SAMPLER_BORDER_COLOR_COMPONENT_MAPPING_CREATE_INFO_EXT"
  | samplerCubicWeightsCreateInfoQcom => "SAMPLER_CUBIC_WEIGHTS_CREATE_INFO_QCOM"
  | samplerBlockMatchWindowCreateInfoQcom => "SAMPLER_BLOCK_MATCH_WINDOW_CREATE_INFO_QCOM"
  | memoryAllocateFlagsInfo => "MEMORY_ALLOCATE_FLAGS_INFO"
  | memoryOpaqueCaptureAddressAllocateInfo => "MEMORY_OPAQUE_CAPTURE_ADDRESS_ALLOCATE_INFO"
  | memoryPriorityAllocateInfoExt => "MEMORY_PRIORITY_ALLOCATE_INFO_EXT"
  | exportMemoryAllocateInfo => "EXPORT_MEMORY_ALLOCATE_INFO"
  | exportMemoryAllocateInfoNv => "EXPORT_MEMORY_ALLOCATE_INFO_NV"
  | exportMemoryWin32HandleInfoKhr => "EXPORT_MEMORY_WIN32_HANDLE_INFO_KHR"
  | exportMemoryWin32HandleInfoNv => "EXPORT_MEMORY_WIN32_HANDLE_INFO_NV"
  | importMemoryWin32HandleInfoKhr => "IMPORT_MEMORY_WIN32_HANDLE_INFO_KHR"
  | importMemoryWin32HandleInfoNv => "IMPORT_MEMORY_WIN32_HANDLE_INFO_NV"
  | importMemoryFdInfoKhr => "IMPORT_MEMORY_FD_INFO_KHR"
  | importMemoryHostPointerInfoExt => "IMPORT_MEMORY_HOST_POINTER_INFO_EXT"
  | importMemoryZirconHandleInfoFuchsia => "IMPORT_MEMORY_ZIRCON_HANDLE_INFO_FUCHSIA"
  | importMemoryBufferCollectionFuchsia => "IMPORT_MEMORY_BUFFER_COLLECTION_FUCHSIA"
  | importAndroidHardwareBufferInfoAndroid => "IMPORT_ANDROID_HARDWARE_BUFFER_INFO_ANDROID"
  | importMetalBufferInfoExt => "IMPORT_METAL_BUFFER_INFO_EXT"
  | importScreenBufferInfoQnx => "IMPORT_SCREEN_BUFFER_INFO_QNX"
  | writeDescriptorSetInlineUniformBlock => "WRITE_DESCRIPTOR_SET_INLINE_UNIFORM_BLOCK"
  | presentIdKhr => "PRESENT_ID_KHR"
  | presentRegionsKhr => "PRESENT_REGIONS_KHR"
  | presentTimesInfoGoogle => "PRESENT_TIMES_INFO_GOOGLE"
  | presentFrameTokenGgp => "PRESENT_FRAME_TOKEN_GGP"
  | displayPresentInfoKhr => "DISPLAY_PRESENT_INFO_KHR"
  | deviceGroupPresentInfoKhr => "DEVICE_GROUP_PRESENT_INFO_KHR"
  | swapchainPresentModeInfoExt => "SWAPCHAIN_PRESENT_MODE_INFO_EXT"
  | deviceGroupRenderPassBeginInfo => "DEVICE_GROUP_RENDER_PASS_BEGIN_INFO"
  | renderPassSampleLocationsBeginInfoExt => "RENDER_PASS_SAMPLE_LOCATIONS_BEGIN_INFO_EXT"
  | renderPassTransformBeginInfoQcom => "RENDER_PASS_TRANSFORM_BEGIN_INFO_QCOM"
  | multiviewPerViewRenderAreasRenderPassBeginInfoQcom => "MULTIVIEW_PER_VIEW_RENDER_AREAS_RENDER_PASS_BEGIN_INFO_QCOM"
  | renderPassStripeBeginInfoArm => "RENDER_PASS_STRIPE_BEGIN_INFO_ARM"
  | accelerationStructureGeometryMotionTrianglesDataNv => "ACCELERATION_STRUCTURE_GEOMETRY_MOTION_TRIANGLES_DATA_NV"

/-- The number of words behind the header. -/
def words : PlainType → Nat
  | pipelineRobustnessCreateInfoExt | pipelineFragmentShadingRateStateCreateInfoKhr
  | pipelineFragmentShadingRateEnumStateCreateInfoNv | renderingAttachmentLocationInfoKhr
  | imageFormatListCreateInfo | imageDrmFormatModifierListCreateInfoExt
  | imageCompressionControlExt | videoProfileListInfoKhr
  | bufferCollectionImageCreateInfoFuchsia | importMetalTextureInfoExt
  | samplerBlockMatchWindowCreateInfoQcom | exportMemoryWin32HandleInfoNv
  | importMemoryWin32HandleInfoNv | importMemoryHostPointerInfoExt
  | importMemoryBufferCollectionFuchsia | writeDescriptorSetInlineUniformBlock | presentIdKhr
  | presentRegionsKhr | presentTimesInfoGoogle | swapchainPresentModeInfoExt
  | deviceGroupRenderPassBeginInfo | multiviewPerViewRenderAreasRenderPassBeginInfoQcom
  | renderPassStripeBeginInfoArm => 2
  | pipelineDiscardRectangleStateCreateInfoExt | attachmentSampleCountInfoAmd
  | computePipelineIndirectBufferInfoNv | imageDrmFormatModifierExplicitCreateInfoExt
  | imageViewSampleWeightCreateInfoQcom | samplerCustomBorderColorCreateInfoExt
  | samplerBorderColorComponentMappingCreateInfoExt | exportMemoryWin32HandleInfoKhr
  | importMemoryWin32HandleInfoKhr | deviceGroupPresentInfoKhr => 3
  | renderingInputAttachmentIndexInfoKhr | renderPassSampleLocationsBeginInfoExt => 4
  | displayPresentInfoKhr => 5
  | _ => 1

/-- The plain type with this number. -/
def ofCode? (code : Int) : Option PlainType := all.find? fun t => t.code == code

theorem mem_all (t : PlainType) : t ∈ all := by cases t <;> decide

end PlainType

end HandleLayer
