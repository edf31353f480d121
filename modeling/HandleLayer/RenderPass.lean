import HandleLayer.AppArray
import HandleLayer.Chain
import HandleLayer.Table

/-!
# Attachments of render passes

A graphics pipeline may leave its colour blend state or its depth and stencil state
dangling when nothing it draws into needs it.  The layer remembers of every render pass
which subpasses have such attachments; dynamic rendering formats in a chain take
precedence over it.

## Main definitions

* `Subpass`, `RenderPassUsage` — a subpass, and what is remembered of a render pass.
* `AttachmentUse`, `attachmentUse` — which state one pipeline needs.
-/

namespace HandleLayer

/-- The number that stands for no attachment. -/
def unusedAttachment : UInt32 := 4294967295

/-- One subpass of a render pass: its colour attachments and its depth attachment. -/
structure Subpass where
  color : AppArray UInt32
  depth : Option UInt32
  deriving DecidableEq, Repr, Inhabited

namespace Subpass

/-- Whether a colour attachment is used. -/
def usesColor (s : Subpass) : Bool := s.color.toList.any (· ≠ unusedAttachment)

/-- Whether the depth attachment is used. -/
def usesDepthStencil (s : Subpass) : Bool := s.depth.any (· ≠ unusedAttachment)

end Subpass

/-- Which subpasses of a render pass have attachments of either sort, by their numbers. -/
structure RenderPassUsage where
  color : List Nat
  depthStencil : List Nat
  deriving DecidableEq, Repr, Inhabited

namespace RenderPassUsage

/-- No subpass has an attachment. -/
def empty : RenderPassUsage := ⟨[], []⟩

/-- The numbers, from `start` on, of the subpasses that satisfy `p`. -/
def numbers (p : Subpass → Bool) : (start : Nat) → List Subpass → List Nat
  | _, [] => []
  | start, s :: rest =>
    if p s then start :: numbers p (start + 1) rest else numbers p (start + 1) rest

/-- What is remembered of a render pass with these subpasses. -/
def ofSubpasses (subpasses : AppArray Subpass) : RenderPassUsage :=
  ⟨numbers Subpass.usesColor 0 subpasses.toList,
    numbers Subpass.usesDepthStencil 0 subpasses.toList⟩

/-- Whether a subpass has a colour attachment. -/
def usesColor (u : RenderPassUsage) (subpass : UInt32) : Bool :=
  u.color.contains subpass.toNat

/-- Whether a subpass has a depth attachment. -/
def usesDepthStencil (u : RenderPassUsage) (subpass : UInt32) : Bool :=
  u.depthStencil.contains subpass.toNat

end RenderPassUsage

/-- Which state a pipeline needs. -/
structure AttachmentUse where
  color : Bool
  depthStencil : Bool
  deriving DecidableEq, Repr

/-- The format that stands for no attachment. -/
def undefinedFormat : Int := 0

/-- Which state a pipeline needs: what the formats in its chain say, or else what is
remembered of its render pass; an unknown render pass needs nothing. -/
def attachmentUse (chain : Chain) (usage : Option RenderPassUsage) (subpass : UInt32) :
    AttachmentUse :=
  match chain.rendering? with
  | some (_, colors, depth, stencil) =>
    ⟨decide (0 < colors), depth != undefinedFormat || stencil != undefinedFormat⟩
  | none =>
    match usage with
    | some u => ⟨u.usesColor subpass, u.usesDepthStencil subpass⟩
    | none => ⟨false, false⟩

end HandleLayer
