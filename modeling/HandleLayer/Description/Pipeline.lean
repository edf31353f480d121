import HandleLayer.Description.Chain
import HandleLayer.Request.Pipeline

/-!
# Descriptions of pipelines

## Main definitions

* `GraphicsInfo.ofDatum`, `GraphicsInfo.describe` and their like.
-/

namespace HandleLayer

open Datum (ofWord ofU32 ofArray ofHandles ofOption)

/-- The graphics pipeline with these stages, states and handles. -/
def GraphicsInfo.ofDatum (names : Names) (d : Datum) : GraphicsInfo where
  stages := d.stages names
  colorBlend := (d.get "color_blend").isTrue
  depthStencil := (d.get "depth_stencil").isTrue
  layout := (d.get "layout").word names
  renderPass := (d.get "render_pass").word names
  subpass := (d.get "subpass").u32
  base := (d.get "base").word names
  baseIndex := (d.get "base_index").int
  chain := d.chain names

/-- A graphics pipeline, with truth values for the states that are pointed to. -/
def GraphicsInfo.describe (g : GraphicsInfo) : Datum :=
  .record [("stages", ofArray Stage.describe g.stages), ("color_blend", .truth g.colorBlend),
    ("depth_stencil", .truth g.depthStencil), ("layout", ofWord g.layout),
    ("render_pass", ofWord g.renderPass), ("subpass", ofU32 g.subpass), ("base", ofWord g.base),
    ("base_index", .number g.baseIndex), ("chain", g.chain.describe)]

/-- The compute pipeline with this stage and these handles. -/
def ComputeInfo.ofDatum (names : Names) (d : Datum) : ComputeInfo where
  stage := .ofDatum names (d.get "stage")
  layout := (d.get "layout").word names
  base := (d.get "base").word names
  baseIndex := (d.get "base_index").int
  chain := d.chain names

/-- A compute pipeline. -/
def ComputeInfo.describe (c : ComputeInfo) : Datum :=
  .record [("stage", c.stage.describe), ("layout", ofWord c.layout), ("base", ofWord c.base),
    ("base_index", .number c.baseIndex), ("chain", c.chain.describe)]

/-- The ray tracing pipeline with these stages and handles; libraries that are left out are a
null pointer. -/
def RayTracingInfo.ofDatum (names : Names) (d : Datum) : RayTracingInfo where
  stages := d.stages names
  library := (d.get "library").optional (Datum.handles names)
  layout := (d.get "layout").word names
  base := (d.get "base").word names
  baseIndex := (d.get "base_index").int
  chain := d.chain names

/-- A ray tracing pipeline. -/
def RayTracingInfo.describe (r : RayTracingInfo) : Datum :=
  .record [("stages", ofArray Stage.describe r.stages),
    ("library", ofOption ofHandles r.library), ("layout", ofWord r.layout),
    ("base", ofWord r.base), ("base_index", .number r.baseIndex), ("chain", r.chain.describe)]

end HandleLayer
