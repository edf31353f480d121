import HandleLayer.AppArray
import HandleLayer.Chain.Plain
import HandleLayer.Overlay
import HandleLayer.Stage

/-!
# Blocks of extension chains

Many calls take a chain of further structures.  A block is one structure of a chain.
Some blocks carry handles, some are plain words, and some have outputs: creation
feedback, and the objects that Metal export finds.

## Main definitions

* `Block`, `Block.sType` — the structures and the numbers of their types.
* `Block.mapHandles` — a block with every handle replaced.
* `Block.copy?` — the layer's copy of a block, with blank storage for feedback.
* `Block.fill`, `Block.copyBack` — outputs written by the next layer, and taken over
  from a copy.
-/

namespace HandleLayer

/-- How the creation of one pipeline or stage went. -/
structure Feedback where
  flags : UInt32
  duration : UInt64
  deriving DecidableEq, Repr

/-- Feedback that nobody has written yet. -/
def Feedback.blank : Feedback := ⟨0, 0⟩

instance : Inhabited Feedback := ⟨.blank⟩

/-- A group of shader stages inside a graphics pipeline. -/
structure ShaderGroup where
  stages : AppArray Stage
  deriving DecidableEq, Repr, Inhabited

/-- One structure of a chain. -/
inductive Block
  /-- A structure without handles and outputs, as long as its type says. -/
  | plain (type : PlainType) (words : Vector UInt64 type.words)
  /-- The formats of dynamic rendering. -/
  | rendering (viewMask : UInt32) (colors : AppArray Int) (depth stencil : Int)
  | library (libraries : AppArray Handle)
  | shaderGroups (groups : AppArray ShaderGroup) (pipelines : AppArray Handle)
  /-- Storage for creation feedback; none is a null pointer. -/
  | feedback (pipeline : Option Feedback) (stages : AppArray Feedback)
  | ycbcrConversion (conversion : Handle)
  | validationCache (cache : Handle)
  | dedicatedMemory (image buffer : Handle)
  | dedicatedMemoryNv (image buffer : Handle)
  | writeStructures (structures : AppArray Handle)
  | writeStructuresNv (structures : AppArray Handle)
  | imageSwapchain (swapchain : Handle)
  | subpassShading (renderPass : Handle) (subpass : UInt32)
  | pipelineLayout (setLayouts : AppArray Handle)
  | frameBoundary (frameId : UInt64) (images buffers : AppArray Handle)
  | presentFences (fences : AppArray Handle)
  | attachmentBegin (attachments : AppArray Handle)
  | opacityMicromap (base : UInt32) (micromap : Handle)
  | displacementMicromap (base : UInt32) (micromap : Handle)
  | metalDevice (out : UInt64)
  /-- Queues are not wrapped. -/
  | metalCommandQueue (queue : Handle) (out : UInt64)
  | metalBuffer (memory : Handle) (out : UInt64)
  | metalTexture (image imageView bufferView : Handle) (out : UInt64)
  | metalSurface (image : Handle) (out : UInt64)
  | metalSharedEvent (semaphore event : Handle) (out : UInt64)
  /-- A structure whose layout the layer does not know. -/
  | unknown (sType : Int)
  deriving DecidableEq, Repr, Inhabited

/-- What the next layer writes into the outputs of one block. -/
structure BlockFill where
  /-- The feedback of the whole pipeline. -/
  pipeline : Option Feedback := none
  /-- The feedback of each stage. -/
  stages : List (Option Feedback) := []
  /-- The exported Metal object. -/
  metal : Option UInt64 := none
  deriving DecidableEq, Repr, Inhabited

namespace Block

/-- The number of the structure type. -/
def sType : Block → Int
  | plain type _ => type.code
  | rendering .. => 1000044002
  | library _ => 1000290000
  | shaderGroups .. => 1000277002
  | feedback .. => 1000192000
  | ycbcrConversion _ => 1000156001
  | validationCache _ => 1000160001
  | dedicatedMemory .. => 1000127001
  | dedicatedMemoryNv .. => 1000026002
  | writeStructures _ => 1000150007
  | writeStructuresNv _ => 1000165007
  | imageSwapchain _ => 1000060008
  | subpassShading .. => 1000369000
  | pipelineLayout _ => 30
  | frameBoundary .. => 1000375001
  | presentFences _ => 1000275001
  | attachmentBegin _ => 1000108003
  | opacityMicromap .. => 1000396009
  | displacementMicromap .. => 1000397002
  | metalDevice _ => 1000311002
  | metalCommandQueue .. => 1000311003
  | metalBuffer .. => 1000311004
  | metalTexture .. => 1000311006
  | metalSurface .. => 1000311008
  | metalSharedEvent .. => 1000311010
  | unknown sType => sType

/-- The block with every wrapped handle in it replaced. -/
def mapHandles (f : Handle → Handle) : Block → Block
  | library hs => library (hs.map f)
  | shaderGroups groups pipelines =>
    shaderGroups (groups.map fun g => ⟨g.stages.map (Stage.mapHandles f)⟩) (pipelines.map f)
  | ycbcrConversion h => ycbcrConversion (f h)
  | validationCache h => validationCache (f h)
  | dedicatedMemory image buffer => dedicatedMemory (f image) (f buffer)
  | dedicatedMemoryNv image buffer => dedicatedMemoryNv (f image) (f buffer)
  | writeStructures hs => writeStructures (hs.map f)
  | writeStructuresNv hs => writeStructuresNv (hs.map f)
  | imageSwapchain h => imageSwapchain (f h)
  | subpassShading renderPass subpass => subpassShading (f renderPass) subpass
  | pipelineLayout hs => pipelineLayout (hs.map f)
  | frameBoundary frameId images buffers =>
    frameBoundary frameId (images.map f) (buffers.map f)
  | presentFences hs => presentFences (hs.map f)
  | attachmentBegin hs => attachmentBegin (hs.map f)
  | opacityMicromap base h => opacityMicromap base (f h)
  | displacementMicromap base h => displacementMicromap base (f h)
  | metalBuffer h out => metalBuffer (f h) out
  | metalTexture image view bufferView out =>
    metalTexture (f image) (f view) (f bufferView) out
  | metalSurface h out => metalSurface (f h) out
  | metalSharedEvent semaphore event out => metalSharedEvent (f semaphore) (f event) out
  | b => b

/-- The block with blank storage of its own for feedback, where there is storage. -/
def blankFeedback : Block → Block
  | feedback pipeline stages =>
    feedback (pipeline.map fun _ => .blank) (stages.map fun _ => .blank)
  | b => b

/-- Whether the layer knows the layout of the block. -/
def isKnown : Block → Bool
  | unknown _ => false
  | _ => true

/-- Whether a Metal object is exported to the block. -/
def exportsMetal : Block → Bool
  | metalDevice _ | metalCommandQueue .. | metalBuffer .. | metalTexture ..
  | metalSurface .. | metalSharedEvent .. => true
  | _ => false

/-- The layer's copy of a block; a block of unknown layout cannot be copied. -/
def copy? (f : Handle → Handle) (b : Block) : Option Block :=
  if b.isKnown then some (b.blankFeedback.mapHandles f) else none

/-! ### Outputs -/

/-- The array with the writes made in it, unless the pointer is null. -/
def fillStages (stages : AppArray Feedback) (writes : List (Option Feedback)) :
    AppArray Feedback :=
  match stages with
  | .null n => .null n
  | .elems xs => .elems (overlay xs writes)

/-- The block after the next layer has written its outputs. -/
def fill (w : BlockFill) : Block → Block
  | feedback pipeline stages =>
    feedback (pipeline.map fun old => w.pipeline.getD old) (fillStages stages w.stages)
  | metalDevice out => metalDevice (w.metal.getD out)
  | metalCommandQueue queue out => metalCommandQueue queue (w.metal.getD out)
  | metalBuffer memory out => metalBuffer memory (w.metal.getD out)
  | metalTexture image view bufferView out =>
    metalTexture image view bufferView (w.metal.getD out)
  | metalSurface image out => metalSurface image (w.metal.getD out)
  | metalSharedEvent semaphore event out =>
    metalSharedEvent semaphore event (w.metal.getD out)
  | b => b

/-- The outputs of a block, as a fill that would write them. -/
def outputs : Block → BlockFill
  | feedback pipeline stages => { pipeline, stages := stages.toList.map some }
  | metalDevice out => { metal := some out }
  | metalCommandQueue _ out => { metal := some out }
  | metalBuffer _ out => { metal := some out }
  | metalTexture _ _ _ out => { metal := some out }
  | metalSurface _ out => { metal := some out }
  | metalSharedEvent _ _ out => { metal := some out }
  | _ => {}

/-- The application's block after the outputs of its copy have been taken over. -/
def copyBack (copy app : Block) : Block := app.fill copy.outputs

end Block

end HandleLayer
