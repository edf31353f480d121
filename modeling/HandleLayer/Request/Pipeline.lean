import HandleLayer.RenderPass
import HandleLayer.Stage

/-!
# Descriptions of pipelines

Pipelines are created several at a time, each from a description with a chain of its own.

## Main definitions

* `GraphicsInfo`, `ComputeInfo`, `RayTracingInfo` — the descriptions.
* `GraphicsInfo.resolve` and its like — the descriptions as they are handed down.
-/

namespace HandleLayer

/-- The description of a graphics pipeline. -/
structure GraphicsInfo where
  stages : AppArray Stage
  /-- Whether there is a pointer to a colour blend state. -/
  colorBlend : Bool
  /-- Whether there is a pointer to a depth and stencil state. -/
  depthStencil : Bool
  layout : Handle
  renderPass : Handle
  subpass : UInt32
  base : Handle
  baseIndex : Int
  chain : Chain
  deriving DecidableEq, Repr, Inhabited

/-- The description as it is handed down: states that the pipeline has no attachments for
are dropped.  The render passes are known by the handles of the application. -/
def GraphicsInfo.resolve (w : Wrapper) (known : Table Handle RenderPassUsage)
    (g : GraphicsInfo) : Noted GraphicsInfo :=
  (Chain.copy w g.chain.blocks).map fun chain =>
    let use := attachmentUse chain (known.get? g.renderPass) g.subpass
    { g with
      stages := g.stages.map (Stage.mapHandles w.unwrap)
      colorBlend := g.colorBlend && use.color
      depthStencil := g.depthStencil && use.depthStencil
      layout := w.unwrap g.layout
      renderPass := w.unwrap g.renderPass
      base := w.unwrap g.base
      chain }

/-- The description of a compute pipeline. -/
structure ComputeInfo where
  stage : Stage
  layout : Handle
  base : Handle
  baseIndex : Int
  chain : Chain
  deriving DecidableEq, Repr, Inhabited

/-- The description as it is handed down. -/
def ComputeInfo.resolve (w : Wrapper) (c : ComputeInfo) : Noted ComputeInfo :=
  (Chain.copy w c.chain.blocks).map fun chain =>
    { c with
      stage := c.stage.mapHandles w.unwrap
      layout := w.unwrap c.layout
      base := w.unwrap c.base
      chain }

/-- The description of a ray tracing pipeline. -/
structure RayTracingInfo where
  stages : AppArray Stage
  /-- Pipelines to link with; none is a null pointer. -/
  library : Option (AppArray Handle)
  layout : Handle
  base : Handle
  baseIndex : Int
  chain : Chain
  deriving DecidableEq, Repr, Inhabited

/-- The description as it is handed down. -/
def RayTracingInfo.resolve (w : Wrapper) (r : RayTracingInfo) : Noted RayTracingInfo :=
  (Chain.copy w r.chain.blocks).map fun chain =>
    { r with
      stages := r.stages.map (Stage.mapHandles w.unwrap)
      library := r.library.map (·.map w.unwrap)
      layout := w.unwrap r.layout
      base := w.unwrap r.base
      chain }

/-- Every element of an array as it is handed down, with the notices in order. -/
def resolveArray {α : Type} (resolve : α → Noted α) : AppArray α → Noted (AppArray α)
  | .null n => .quiet (.null n)
  | .elems xs => (Noted.collect (xs.map resolve)).map .elems

end HandleLayer
