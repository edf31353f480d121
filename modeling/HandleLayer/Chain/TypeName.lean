import HandleLayer.Chain.Plain

/-!
# Names of structure types

In messages a structure type is shown by its name, or by its number when it has none
here.
-/

namespace HandleLayer

/-- Structure types of which only the name is known. -/
def namedStructures : List (Int × String) :=
  [(0, "APPLICATION_INFO"),
   (5, "MEMORY_ALLOCATE_INFO"),
   (9, "SEMAPHORE_CREATE_INFO"),
   (12, "BUFFER_CREATE_INFO"),
   (14, "IMAGE_CREATE_INFO"),
   (28, "GRAPHICS_PIPELINE_CREATE_INFO"),
   (1000044001, "RENDERING_ATTACHMENT_INFO"),
   (1000165000, "RAY_TRACING_PIPELINE_CREATE_INFO_NV"),
   (1000225001, "PIPELINE_SHADER_STAGE_REQUIRED_SUBGROUP_SIZE_CREATE_INFO")]

/-- Structure types with handles, arrays or outputs in them. -/
def linkedStructures : List (Int × String) :=
  [(1000044002, "PIPELINE_RENDERING_CREATE_INFO"),
   (1000290000, "PIPELINE_LIBRARY_CREATE_INFO_KHR"),
   (1000277002, "GRAPHICS_PIPELINE_SHADER_GROUPS_CREATE_INFO_NV"),
   (1000192000, "PIPELINE_CREATION_FEEDBACK_CREATE_INFO"),
   (1000156001, "SAMPLER_YCBCR_CONVERSION_INFO"),
   (1000160001, "SHADER_MODULE_VALIDATION_CACHE_CREATE_INFO_EXT"),
   (1000127001, "MEMORY_DEDICATED_ALLOCATE_INFO"),
   (1000026002, "DEDICATED_ALLOCATION_MEMORY_ALLOCATE_INFO_NV"),
   (1000150007, "WRITE_DESCRIPTOR_SET_ACCELERATION_STRUCTURE_KHR"),
   (1000165007, "WRITE_DESCRIPTOR_SET_ACCELERATION_STRUCTURE_NV"),
   (1000060008, "IMAGE_SWAPCHAIN_CREATE_INFO_KHR"),
   (1000369000, "SUBPASS_SHADING_PIPELINE_CREATE_INFO_HUAWEI"),
   (30, "PIPELINE_LAYOUT_CREATE_INFO"),
   (1000375001, "FRAME_BOUNDARY_EXT"),
   (1000275001, "SWAPCHAIN_PRESENT_FENCE_INFO_EXT"),
   (1000108003, "RENDER_PASS_ATTACHMENT_BEGIN_INFO"),
   (1000396009, "ACCELERATION_STRUCTURE_TRIANGLES_OPACITY_MICROMAP_EXT"),
   (1000397002, "ACCELERATION_STRUCTURE_TRIANGLES_DISPLACEMENT_MICROMAP_NV"),
   (1000311002, "EXPORT_METAL_DEVICE_INFO_EXT"),
   (1000311003, "EXPORT_METAL_COMMAND_QUEUE_INFO_EXT"),
   (1000311004, "EXPORT_METAL_BUFFER_INFO_EXT"),
   (1000311006, "EXPORT_METAL_TEXTURE_INFO_EXT"),
   (1000311008, "EXPORT_METAL_IO_SURFACE_INFO_EXT"),
   (1000311010, "EXPORT_METAL_SHARED_EVENT_INFO_EXT")]

/-- A structure type as messages show it. -/
def structureTypeName (sType : Int) : String :=
  match PlainType.ofCode? sType with
  | some t => t.name
  | none =>
    match (namedStructures ++ linkedStructures).find? fun e => e.1 == sType with
    | some e => e.2
    | none => toString sType

end HandleLayer
