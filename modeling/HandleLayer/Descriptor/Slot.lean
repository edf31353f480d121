import HandleLayer.Descriptor.Type
import HandleLayer.Notice

/-!
# Payloads of descriptors

What a descriptor of each type is made of when it is written: an image with its sampler,
a part of a buffer, a view of a buffer, an acceleration structure, or raw bytes.

## Main definitions

* `SlotKind`, `SlotKind.of` — the kinds of payload, by descriptor type.
* `SlotKind.size` — the bytes a payload takes.
-/

namespace HandleLayer

/-- The kind of payload of a descriptor. -/
inductive SlotKind
  | image
  | buffer
  | texelBufferView
  | accelerationStructureKhr
  | accelerationStructureNv
  /-- Raw bytes, of which there are `size`. -/
  | inlineUniformBlock (size : UInt32)
  deriving DecidableEq, Repr, Inhabited

namespace SlotKind

/-- The payload of a descriptor type.  The count is the size of an inline block in bytes
and does not matter otherwise. -/
def of (type : DescriptorType) (count : UInt32) : Except InputError SlotKind :=
  match type with
  | .sampler | .combinedImageSampler | .sampledImage | .storageImage | .inputAttachment =>
    .ok image
  | .uniformBuffer | .storageBuffer | .uniformBufferDynamic | .storageBufferDynamic =>
    .ok buffer
  | .uniformTexelBuffer | .storageTexelBuffer => .ok texelBufferView
  | .accelerationStructureKhr => .ok accelerationStructureKhr
  | .accelerationStructureNv => .ok accelerationStructureNv
  | .inlineUniformBlock => .ok (inlineUniformBlock count)
  | .other _ => .error (.unknownDescriptorType type)

/-- The number of bytes of a payload. -/
def size : SlotKind → UInt64
  | image => 24
  | buffer => 24
  | texelBufferView => 8
  | accelerationStructureKhr => 8
  | accelerationStructureNv => 8
  | inlineUniformBlock size => size.toUInt64

/-- The name of a kind of payload. -/
def name : SlotKind → String
  | image => "Image"
  | buffer => "Buffer"
  | texelBufferView => "TexelBufferView"
  | accelerationStructureKhr => "AccelerationStructureKHR"
  | accelerationStructureNv => "AccelerationStructureNV"
  | inlineUniformBlock _ => "InlineUniformBlock"

end SlotKind

end HandleLayer
