import HandleLayer.Handle

/-!
# Shader stages
-/

namespace HandleLayer

/-- One shader stage of a pipeline or of a shader group. -/
structure Stage where
  /-- The bits that say which stage it is. -/
  flags : UInt32
  /-- The shader module. -/
  module : Handle
  /-- The entry point in the module; none is a null pointer. -/
  name : Option String
  deriving DecidableEq, Repr, Inhabited

/-- The stage with its module replaced. -/
def Stage.mapHandles (f : Handle → Handle) (s : Stage) : Stage :=
  { s with module := f s.module }

end HandleLayer
