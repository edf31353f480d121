import HandleLayer.Handle

/-!
# Identity of the layer

The names under which the layer registers, and its own entry in the list of tools.

## Main definitions

* `layerName`, `layerDescription`, `layerVersion`.
* `Tool`, `layerTool` — an entry in the list of tools, and the layer's.
-/

namespace HandleLayer

/-- The name under which the layer registers. -/
def layerName : String := "VK_LAYER_RVL_validation"

/-- What the layer does, in a few words. -/
def layerDescription : String := "RVL handle wrapping and validation dispatch"

/-- The version of the layer. -/
def layerVersion : String := "0.1.0"

/-- What a tool says of itself. -/
structure Tool where
  name : String
  version : String
  /-- The bits for what the tool is for. -/
  purposes : UInt32
  description : String
  /-- The layer that the tool belongs to. -/
  layer : String
  deriving DecidableEq, Repr, Inhabited

/-- The bit for tools that validate. -/
def validationPurpose : UInt32 := 1

/-- The layer's own entry in the list of tools. -/
def layerTool : Tool where
  name := layerName
  version := layerVersion
  purposes := validationPurpose
  description := layerDescription
  layer := layerName

end HandleLayer
