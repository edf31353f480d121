import HandleLayer.Description.Descriptor
import HandleLayer.Description.Geometry
import HandleLayer.Description.Pipeline
import HandleLayer.NextLayer

/-!
# Descriptions of calls

A call that reaches the next layer is described by the name of its entry point and its
arguments.  The instance or device is one of them, unless the call is made on a command
buffer, a queue or a physical device.

## Main definitions

* `CreateInfo.fields`, `DeviceRequest.fields`, `InstanceRequest.fields` — arguments.
* `Call.describe` — a call.
-/

namespace HandleLayer

open Datum (ofWord ofU32 ofNat ofArray ofHandles ofOption ofList)

/-- The subpass with these attachments; a depth attachment that is left out is a null pointer. -/
def Subpass.ofDatum (d : Datum) : Subpass :=
  ⟨(d.get "color").array Datum.u32, (d.get "depth").optional Datum.u32⟩

/-- The attachments of a subpass. -/
def Subpass.describe (s : Subpass) : Datum :=
  .record [("color", ofArray ofU32 s.color), ("depth", ofOption ofU32 s.depth)]

/-- The arguments that describe an object to be created; the entries of a template are not among
them. -/
def CreateInfo.fields : CreateInfo → List (String × Datum)
  | buffer size => [("size", ofWord size)]
  | bufferView h => [("buffer", ofWord h)]
  | image chain => [("chain", chain.describe)]
  | imageView h chain => [("image", ofWord h), ("chain", chain.describe)]
  | sampler chain => [("chain", chain.describe)]
  | shaderModule chain => [("chain", chain.describe)]
  | memory size chain => [("size", ofWord size), ("chain", chain.describe)]
  | descriptorSetLayout bindings => [("bindings", ofArray Binding.describe bindings)]
  | updateTemplate type sets layout _ =>
    [("type", .number type.code), ("set_layout", ofWord sets), ("pipeline_layout", ofWord layout)]
  | renderPass _ subpasses => [("subpasses", ofList Subpass.describe subpasses.toList)]
  | framebuffer flags pass attachments =>
    [("flags", ofU32 flags), ("render_pass", ofWord pass), ("attachments", ofHandles attachments)]
  | pipelineLayout sets => [("set_layouts", ofHandles sets)]
  | swapchain surface old => [("surface", ofWord surface), ("old", ofWord old)]
  | accelerationStructure h => [("buffer", ofWord h)]
  | _ => []

/-- The inheritance with these handles and this subpass. -/
def Inheritance.ofDatum (names : Names) (d : Datum) : Inheritance :=
  ⟨(d.get "render_pass").word names, (d.get "framebuffer").word names, (d.get "subpass").u32⟩

/-- What a secondary command buffer takes over. -/
def Inheritance.describe (i : Inheritance) : Datum :=
  .record [("render_pass", ofWord i.renderPass), ("framebuffer", ofWord i.framebuffer),
    ("subpass", ofU32 i.subpass)]

/-- The result with this number. -/
def Result.ofDatum (d : Datum) : Result := ⟨d.int⟩

/-- The number of a result. -/
def Result.describe (r : Result) : Datum := .number r.code

/-- An array whose count stands beside another one's pointer. -/
def Datum.arrayOf (n : Nat) (d : Datum) : AppArray UInt32 :=
  match d.array Datum.u32 with
  | .null _ => .null n
  | .elems xs => .elems (padded n 0 xs)

/-- There are as many numbers of images, and results if any, as swapchains. -/
def PresentInfo.ofDatum (names : Names) (d : Datum) : PresentInfo :=
  let swapchains := (d.get "swapchains").handles names
  { wait := (d.get "wait").handles names
    swapchains
    indices := (d.get "indices").arrayOf swapchains.count
    results := (d.get "results").optional fun rs =>
      Datum.padded swapchains.count .success (rs.items.map Result.ofDatum)
    chain := d.chain names }

/-- The arguments of a presentation, apart from the queue. -/
def PresentInfo.fields (p : PresentInfo) : List (String × Datum) :=
  [("wait", ofHandles p.wait), ("swapchains", ofHandles p.swapchains),
    ("indices", ofArray ofU32 p.indices), ("results", ofOption (ofList Result.describe) p.results),
    ("chain", p.chain.describe)]

/-- The arguments that say what is attached to an object. -/
def DebugLabel.fields : DebugLabel → List (String × Datum)
  | name s => [("name", ofOption .text s)]
  | tag number bytes => [("tag_name", ofWord number), ("tag", .ofBytes bytes)]

/-- Data for a template; none is a null pointer. -/
def describeData (data : Option Blob) : Datum := ofOption Blob.describe data

/-- The arguments of a call to a device, apart from the device. -/
def DeviceRequest.fields : DeviceRequest → List (String × Datum)
  | destroyDevice => []
  | create info => info.fields
  | destroy _ h => [("handle", ofWord h)]
  | releaseConfiguration h => [("handle", ofWord h)]
  | resetDescriptorPool pool flags => [("handle", ofWord pool), ("flags", ofU32 flags)]
  | allocateSets pool layouts => [("pool", ofWord pool), ("layouts", ofHandles layouts)]
  | freeSets pool sets => [("pool", ofWord pool), ("sets", ofHandles sets)]
  | updateSets writes copies =>
    [("writes", ofArray DescriptorWrite.describe writes),
      ("copies", ofArray DescriptorCopy.describe copies)]
  | updateSetWithTemplate set template data =>
    [("set", ofWord set), ("template", ofWord template), ("data", describeData data)]
  | pushSetWithTemplate commandBuffer template layout setIndex data =>
    [("command_buffer", ofWord commandBuffer), ("template", ofWord template),
      ("layout", ofWord layout), ("set_index", ofU32 setIndex), ("data", describeData data)]
  | pushSetWithTemplate2 commandBuffer template layout setIndex data chain =>
    [("command_buffer", ofWord commandBuffer), ("template", ofWord template),
      ("layout", ofWord layout), ("set_index", ofU32 setIndex), ("data", describeData data),
      ("chain", chain.describe)]
  | getDescriptor query => query.fields
  | beginRenderPass commandBuffer pass framebuffer contents chain =>
    [("command_buffer", ofWord commandBuffer), ("render_pass", ofWord pass),
      ("framebuffer", ofWord framebuffer), ("contents", .number contents),
      ("chain", chain.describe)]
  | createGraphicsPipelines cache infos =>
    [("cache", ofWord cache), ("infos", ofArray GraphicsInfo.describe infos)]
  | createComputePipelines cache infos =>
    [("cache", ofWord cache), ("infos", ofArray ComputeInfo.describe infos)]
  | createRayTracingPipelines _ operation cache infos =>
    [("operation", ofWord operation), ("cache", ofWord cache),
      ("infos", ofArray RayTracingInfo.describe infos)]
  | allocateCommandBuffers pool level count =>
    [("pool", ofWord pool), ("level", .number level.code), ("count", ofU32 count)]
  | freeCommandBuffers pool buffers => [("pool", ofWord pool), ("buffers", ofHandles buffers)]
  | beginCommandBuffer commandBuffer flags inheritance =>
    [("command_buffer", ofWord commandBuffer), ("flags", ofU32 flags),
      ("inheritance", ofOption Inheritance.describe inheritance)]
  | getSwapchainImages swapchain => [("handle", ofWord swapchain)]
  | acquireNextImage swapchain timeout semaphore fence =>
    [("swapchain", ofWord swapchain), ("timeout", ofWord timeout),
      ("semaphore", ofWord semaphore), ("fence", ofWord fence)]
  | present queue info => ("queue", ofWord queue) :: info.fields
  | joinOperation operation => [("operation", ofWord operation)]
  | queryOperation operation => [("operation", ofWord operation)]
  | buildStructures operation infos ranges =>
    [("operation", ofWord operation),
      ("infos",
        match infos with
        | .null n => ofHandles (.null n)
        | .elems bs => .list (describeHostBuilds ranges bs))]
  | recordBuildStructures commandBuffer infos _ =>
    [("command_buffer", ofWord commandBuffer),
      ("infos", ofArray (BuildInfo.describe .device) infos)]
  | getBuildSizes buildType info =>
    [("build_type", .number buildType), ("infos", .list [info.describe .device])]
  | labelObject _ type object label =>
    ("type", .number type) :: ("object", ofWord object) :: label.fields
  | exportMetalObjects chain => [("chain", chain.describe)]

/-- Whether a call is made on a command buffer or a queue, and not on the device
itself. -/
def DeviceRequest.isIndirect : DeviceRequest → Bool
  | pushSetWithTemplate .. | pushSetWithTemplate2 .. | beginRenderPass ..
  | beginCommandBuffer .. | present .. | recordBuildStructures .. => true
  | _ => false

/-- The arguments of a call to an instance. -/
def InstanceRequest.fields (host : Handle) : InstanceRequest → List (String × Datum)
  | destroyInstance => [("instance", ofWord host)]
  | physicalDeviceProperties pd => [("physical_device", ofWord pd)]
  | destroySurface surface => [("instance", ofWord host), ("handle", ofWord surface)]
  | displays (.supportedDisplays plane) pd =>
    [("physical_device", ofWord pd), ("plane", ofU32 plane)]
  | displays _ pd => [("physical_device", ofWord pd)]
  | modes _ pd display => [("physical_device", ofWord pd), ("display", ofWord display)]
  | tools _ pd count => [("physical_device", ofWord pd), ("count", ofU32 count)]

/-- All the arguments of a call. -/
def Call.fields (c : Call) : List (String × Datum) :=
  match c.request with
  | .ofInstance r => r.fields c.object
  | .ofDevice r => if r.isIndirect then r.fields else ("device", ofWord c.object) :: r.fields

/-- A call with its arguments. -/
def Call.describe (c : Call) : Datum :=
  .list [.text c.request.command.name, .record c.fields]

end HandleLayer
