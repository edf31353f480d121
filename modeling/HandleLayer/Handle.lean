/-!
# Handles

A handle is a 64-bit word naming an object.  The application holds surrogates, the
next layer holds real handles, and the word zero names nothing on either side.

## Main definitions

* `Handle`, `ObjectType` — the names and the kinds of object they name.
* `hex` — the written form of a word in messages.
-/

namespace HandleLayer

/-- The name of an object; zero is the null handle. -/
abbrev Handle := UInt64

/-- The kinds of object whose life the layer announces. -/
inductive ObjectType
  | semaphore
  | fence
  | deviceMemory
  | buffer
  | image
  | bufferView
  | imageView
  | shaderModule
  | pipelineCache
  | pipelineLayout
  | renderPass
  | pipeline
  | descriptorSetLayout
  | sampler
  | descriptorPool
  | descriptorSet
  | framebuffer
  | commandPool
  | updateTemplate
  | surface
  | swapchain
  | accelerationStructure
  | performanceConfiguration
  | deferredOperation
  deriving DecidableEq, Repr, Inhabited

namespace ObjectType

/-- The number of the object type in the interface. -/
def code : ObjectType → Nat
  | semaphore => 5
  | fence => 7
  | deviceMemory => 8
  | buffer => 9
  | image => 10
  | bufferView => 13
  | imageView => 14
  | shaderModule => 15
  | pipelineCache => 16
  | pipelineLayout => 17
  | renderPass => 18
  | pipeline => 19
  | descriptorSetLayout => 20
  | sampler => 21
  | descriptorPool => 22
  | descriptorSet => 23
  | framebuffer => 24
  | commandPool => 25
  | updateTemplate => 1000085000
  | surface => 1000000000
  | swapchain => 1000001000
  | accelerationStructure => 1000150000
  | performanceConfiguration => 1000210000
  | deferredOperation => 1000268000

end ObjectType

/-- A word in lower-case hexadecimal, after `0x` and without leading zeros. -/
def hex (word : UInt64) : String :=
  "0x" ++ String.ofList (Nat.toDigits 16 word.toNat)

end HandleLayer
