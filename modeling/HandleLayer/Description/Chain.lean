import HandleLayer.Chain
import HandleLayer.Description.Datum

/-!
# Descriptions of chains

A chain is described by the list of its blocks, each with the number of its type and the
fields of that type.  In what the next layer gets, every block also says whose memory it
is.

## Main definitions

* `Block.ofDatum`, `Block.describe` — one block.
* `Datum.chain`, `Chain.describe` — a chain of the application, and one handed down.
-/

namespace HandleLayer

open Datum (ofWord ofU32 ofArray ofHandles ofOption)

/-! ### Parts of blocks -/

/-- The feedback with these flags and this duration. -/
def Feedback.ofDatum (names : Names) (d : Datum) : Feedback :=
  ⟨(d.get "flags").u32, (d.get "duration").word names⟩

/-- The flags and the duration of feedback. -/
def Feedback.describe (f : Feedback) : Datum :=
  .record [("flags", ofU32 f.flags), ("duration", ofWord f.duration)]

/-- The stage with this module; a name that is left out is a null pointer. -/
def Stage.ofDatum (names : Names) (d : Datum) : Stage :=
  ⟨(d.get "stage").u32, (d.get "module").word names, (d.get "name").string?⟩

/-- The flags, the module and the name of a stage. -/
def Stage.describe (s : Stage) : Datum :=
  .record [("stage", ofU32 s.flags), ("module", ofWord s.module), ("name", ofOption .text s.name)]

/-- The stages under the key of that name. -/
def Datum.stages (names : Names) (d : Datum) : AppArray Stage :=
  (d.get "stages").array (Stage.ofDatum names)

/-- The group of these stages. -/
def ShaderGroup.ofDatum (names : Names) (d : Datum) : ShaderGroup := ⟨d.stages names⟩

/-- The stages of a group. -/
def ShaderGroup.describe (g : ShaderGroup) : Datum :=
  .record [("stages", ofArray Stage.describe g.stages)]

/-! ### Blocks -/

namespace Block

/-- The block with this number of its type; words that are missing are zero. -/
def ofDatum (names : Names) (d : Datum) : Block :=
  let h (key : String) : Handle := (d.get key).word names
  let hs (key : String) : AppArray Handle := (d.get key).handles names
  match (d.get "s").nat with
  | 1000044002 =>
    rendering (d.get "view_mask").u32 ((d.get "colors").array Datum.int) (d.get "depth").int
      (d.get "stencil").int
  | 1000290000 => library (hs "libraries")
  | 1000277002 =>
    shaderGroups ((d.get "groups").array (ShaderGroup.ofDatum names)) (hs "pipelines")
  | 1000192000 =>
    feedback ((d.get "pipeline").optional (Feedback.ofDatum names))
      ((d.get "stages").array (Feedback.ofDatum names))
  | 1000156001 => ycbcrConversion (h "conversion")
  | 1000160001 => validationCache (h "cache")
  | 1000127001 => dedicatedMemory (h "image") (h "buffer")
  | 1000026002 => dedicatedMemoryNv (h "image") (h "buffer")
  | 1000150007 => writeStructures (hs "structures")
  | 1000165007 => writeStructuresNv (hs "structures")
  | 1000060008 => imageSwapchain (h "swapchain")
  | 1000369000 => subpassShading (h "render_pass") (d.get "subpass").u32
  | 30 => pipelineLayout (hs "set_layouts")
  | 1000375001 => frameBoundary (h "frame_id") (hs "images") (hs "buffers")
  | 1000275001 => presentFences (hs "fences")
  | 1000108003 => attachmentBegin (hs "attachments")
  | 1000396009 => opacityMicromap (d.get "base").u32 (h "micromap")
  | 1000397002 => displacementMicromap (d.get "base").u32 (h "micromap")
  | 1000311002 => metalDevice (h "out")
  | 1000311003 => metalCommandQueue (h "queue") (h "out")
  | 1000311004 => metalBuffer (h "memory") (h "out")
  | 1000311006 => metalTexture (h "image") (h "image_view") (h "buffer_view") (h "out")
  | 1000311008 => metalSurface (h "image") (h "out")
  | 1000311010 => metalSharedEvent (h "semaphore") (h "event") (h "out")
  | _ =>
    match PlainType.ofCode? (d.get "s").int with
    | some type =>
      let words := (d.get "data").words names
      plain type (.ofFn fun i => words.getD i 0)
    | none => unknown (d.get "s").int

/-- The fields of a block, by the names they are described under. -/
def fields : Block → List (String × Datum)
  | plain _ words => [("data", .ofWords words.toList)]
  | rendering viewMask colors depth stencil =>
    [("view_mask", ofU32 viewMask), ("colors", ofArray .number colors),
      ("depth", .number depth), ("stencil", .number stencil)]
  | library hs => [("libraries", ofHandles hs)]
  | shaderGroups groups pipelines =>
    [("groups", ofArray ShaderGroup.describe groups), ("pipelines", ofHandles pipelines)]
  | feedback pipeline stages =>
    [("pipeline", ofOption Feedback.describe pipeline),
      ("stages", ofArray Feedback.describe stages)]
  | ycbcrConversion h => [("conversion", ofWord h)]
  | validationCache h => [("cache", ofWord h)]
  | dedicatedMemory image buffer => [("image", ofWord image), ("buffer", ofWord buffer)]
  | dedicatedMemoryNv image buffer => [("image", ofWord image), ("buffer", ofWord buffer)]
  | writeStructures hs => [("structures", ofHandles hs)]
  | writeStructuresNv hs => [("structures", ofHandles hs)]
  | imageSwapchain h => [("swapchain", ofWord h)]
  | subpassShading pass subpass => [("render_pass", ofWord pass), ("subpass", ofU32 subpass)]
  | pipelineLayout hs => [("set_layouts", ofHandles hs)]
  | frameBoundary frameId images buffers =>
    [("frame_id", ofWord frameId), ("images", ofHandles images), ("buffers", ofHandles buffers)]
  | presentFences hs => [("fences", ofHandles hs)]
  | attachmentBegin hs => [("attachments", ofHandles hs)]
  | opacityMicromap base h => [("base", ofU32 base), ("micromap", ofWord h)]
  | displacementMicromap base h => [("base", ofU32 base), ("micromap", ofWord h)]
  | metalDevice out => [("out", ofWord out)]
  | metalCommandQueue queue out => [("queue", ofWord queue), ("out", ofWord out)]
  | metalBuffer memory out => [("memory", ofWord memory), ("out", ofWord out)]
  | metalTexture image view bufferView out =>
    [("image", ofWord image), ("image_view", ofWord view), ("buffer_view", ofWord bufferView),
      ("out", ofWord out)]
  | metalSurface image out => [("image", ofWord image), ("out", ofWord out)]
  | metalSharedEvent semaphore event out =>
    [("semaphore", ofWord semaphore), ("event", ofWord event), ("out", ofWord out)]
  | unknown _ => []

/-- The block with its type and its owner. -/
def describe (owner : String) (b : Block) : Datum :=
  .record (("s", .number b.sType) :: ("by", .text owner) :: b.fields)

end Block

/-! ### Chains -/

/-- The blocks of a list. -/
def Datum.blocks (names : Names) (d : Datum) : List Block := d.items.map (Block.ofDatum names)

/-- The chain under the key of that name. -/
def Datum.chain (names : Names) (d : Datum) : Chain := .ofApp ((d.get "chain").blocks names)

/-- Blocks of the application. -/
def describeBlocks (blocks : List Block) : Datum := .ofList (Block.describe "app") blocks

/-- A chain that is handed down: copies of the layer, and blocks of the application. -/
def Chain.describe (c : Chain) : Datum :=
  .list (c.copied.map (Block.describe "layer") ++ c.shared.map (Block.describe "app"))

end HandleLayer
