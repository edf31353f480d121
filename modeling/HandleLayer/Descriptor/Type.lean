/-!
# Descriptor types

A descriptor type is a number; the layer knows the payload of fourteen of them.
-/

namespace HandleLayer

/-- The type of a descriptor. -/
inductive DescriptorType
  | sampler
  | combinedImageSampler
  | sampledImage
  | storageImage
  | uniformTexelBuffer
  | storageTexelBuffer
  | uniformBuffer
  | storageBuffer
  | uniformBufferDynamic
  | storageBufferDynamic
  | inputAttachment
  | inlineUniformBlock
  | accelerationStructureKhr
  | accelerationStructureNv
  /-- A type whose payload the layer does not know. -/
  | other (code : Int)
  deriving DecidableEq, Repr, Inhabited

namespace DescriptorType

/-- The number of the descriptor type. -/
def code : DescriptorType → Int
  | sampler => 0
  | combinedImageSampler => 1
  | sampledImage => 2
  | storageImage => 3
  | uniformTexelBuffer => 4
  | storageTexelBuffer => 5
  | uniformBuffer => 6
  | storageBuffer => 7
  | uniformBufferDynamic => 8
  | storageBufferDynamic => 9
  | inputAttachment => 10
  | inlineUniformBlock => 1000138000
  | accelerationStructureKhr => 1000150000
  | accelerationStructureNv => 1000165000
  | other code => code

/-- The types whose payload the layer knows. -/
def known : List DescriptorType :=
  [sampler, combinedImageSampler, sampledImage, storageImage, uniformTexelBuffer,
    storageTexelBuffer, uniformBuffer, storageBuffer, uniformBufferDynamic,
    storageBufferDynamic, inputAttachment, inlineUniformBlock, accelerationStructureKhr,
    accelerationStructureNv]

/-- The descriptor type with this number. -/
def ofCode (code : Int) : DescriptorType :=
  (known.find? fun t => t.code == code).getD (other code)

/-- The types with a name in messages. -/
def names : List (Int × String) :=
  [(0, "SAMPLER"),
   (1, "COMBINED_IMAGE_SAMPLER"),
   (2, "SAMPLED_IMAGE"),
   (3, "STORAGE_IMAGE"),
   (4, "UNIFORM_TEXEL_BUFFER"),
   (5, "STORAGE_TEXEL_BUFFER"),
   (6, "UNIFORM_BUFFER"),
   (7, "STORAGE_BUFFER"),
   (8, "UNIFORM_BUFFER_DYNAMIC"),
   (9, "STORAGE_BUFFER_DYNAMIC"),
   (10, "INPUT_ATTACHMENT"),
   (1000138000, "INLINE_UNIFORM_BLOCK"),
   (1000150000, "ACCELERATION_STRUCTURE_KHR"),
   (1000165000, "ACCELERATION_STRUCTURE_NV"),
   (1000351000, "MUTABLE_EXT"),
   (1000440000, "SAMPLE_WEIGHT_IMAGE_QCOM"),
   (1000440001, "BLOCK_MATCH_IMAGE_QCOM")]

/-- A descriptor type as messages show it: by its name, or by its number. -/
def name (t : DescriptorType) : String :=
  match names.find? fun e => e.1 == t.code with
  | some e => e.2
  | none => toString t.code

/-- The types whose payload is a sampler, an image view and a layout. -/
def isImage : DescriptorType → Bool
  | sampler | combinedImageSampler | sampledImage | storageImage | inputAttachment => true
  | _ => false

theorem ofCode_code_of_known {t : DescriptorType} (h : t ∈ known) : ofCode t.code = t := by
  simp only [known, List.mem_cons, List.not_mem_nil, or_false] at h
  rcases h with rfl | rfl | rfl | rfl | rfl | rfl | rfl | rfl | rfl | rfl | rfl | rfl | rfl |
    rfl <;> rfl

end DescriptorType

end HandleLayer
