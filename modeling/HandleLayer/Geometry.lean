import HandleLayer.Blob
import HandleLayer.Chain

/-!
# Geometry of acceleration structures

An acceleration structure is built from geometries.  Triangles carry a chain with
micromaps; instances name other acceleration structures.  Instances for a build on the
host lie in memory of the application, where a build range says how many there are and
how far in they start; instances for a build on the device lie in device memory, which
the layer does not read.

## Main definitions

* `Instance`, `HostMemory` — instances, and the memory they are read from.
* `HostMemory.read`, `HostMemory.resolve` — what a range reads, and the layer's copy.
* `InstanceSource` — where instances are.
* `Geometry`, `BuildInfo` — the parts of a build.
* `BuildInfo.resolve` — the form handed down.
-/

namespace HandleLayer

/-- One instance of another acceleration structure: 56 bytes, and then its name. -/
structure Instance where
  /-- The transformation in 48 bytes; then the number that shaders see in three and the
  mask in one; then the offset of its shaders in three and the flags in one. -/
  fields : Vector UInt8 56
  /-- The acceleration structure. -/
  reference : Handle
  deriving DecidableEq, Repr, Inhabited

namespace Instance

/-- The instance with its acceleration structure replaced. -/
def mapHandles (f : Handle → Handle) (i : Instance) : Instance :=
  { i with reference := f i.reference }

/-- The number of bytes of an instance. -/
def size : Nat := 64

/-- The bytes of an instance. -/
def bytes (i : Instance) : List UInt8 := i.fields.toList ++ wordBytes i.reference

/-- The instance that begins at a place. -/
def ofBlob (b : Blob) (place : Nat) : Instance where
  fields := .ofFn fun n => b.byte (place + n)
  reference := b.word (place + 56)

end Instance

/-- How instances lie in memory. -/
inductive InstanceLayout
  /-- One after the other. -/
  | flat
  /-- Anywhere, behind pointers that lie one after the other. -/
  | pointers
  deriving DecidableEq, Repr, Inhabited

/-- How much of a geometry is built: the number of its primitives and where they start,
in bytes. -/
structure BuildRange where
  count : UInt32
  offset : UInt32
  deriving DecidableEq, Repr, Inhabited

/-- Host memory in which instances are looked for.  A pointer in it is the number of an
instance elsewhere. -/
structure HostMemory where
  bytes : Blob
  elsewhere : List Instance
  deriving DecidableEq, Repr, Inhabited

namespace HostMemory

/-- The instance with this number in a layout, counted from a place on. -/
def instanceAt (m : HostMemory) (layout : InstanceLayout) (place j : Nat) : Instance :=
  match layout with
  | .flat => .ofBlob m.bytes (place + Instance.size * j)
  | .pointers => m.elsewhere.getD (m.bytes.word (place + 8 * j)).toNat default

/-- The instances that a range reads with a layout. -/
def read (m : HostMemory) (layout : InstanceLayout) (range : BuildRange) : List Instance :=
  (List.range range.count.toNat).map (m.instanceAt layout range.offset.toNat)

/-- Memory of whole words, all zero but for `content` from a place on. -/
def contentAt (place : Nat) (content : List UInt8) : Blob :=
  (Blob.zeros (8 * ((place + content.length + 7) / 8))).write place content

/-- Memory with instances from a place on, in a layout. -/
def store (layout : InstanceLayout) (place : Nat) (instances : List Instance) : HostMemory :=
  match layout with
  | .flat => ⟨contentAt place (instances.flatMap Instance.bytes), []⟩
  | .pointers =>
    ⟨contentAt place ((List.range instances.length).flatMap fun j => wordBytes j.toUInt64),
      instances⟩

/-- The layer's copy of the instances that a range reads, laid out alike, behind as many
zero bytes, and with the real handles. -/
def resolve (f : Handle → Handle) (m : HostMemory) (layout : InstanceLayout)
    (range : BuildRange) : HostMemory :=
  store layout range.offset.toNat ((m.read layout range).map (Instance.mapHandles f))

end HostMemory

/-- Where instances are. -/
inductive InstanceSource
  /-- Memory of the host. -/
  | host (memory : HostMemory)
  /-- An address behind which no instances are known, of which zero is the null address. -/
  | address (a : UInt64)
  deriving DecidableEq, Repr, Inhabited

namespace InstanceSource

/-- What the host finds where instances are: nothing at the null address, and no
instances behind any other address. -/
def memory? : InstanceSource → Option HostMemory
  | host memory => some memory
  | address 0 => none
  | address _ => some ⟨.zeros 0, []⟩

/-- Instances as they are handed down: the layer's copy of those that a range reads,
unless they are at the null address. -/
def resolve (f : Handle → Handle) (layout : InstanceLayout) (range : BuildRange)
    (s : InstanceSource) : InstanceSource :=
  match s.memory? with
  | none => s
  | some memory => host (memory.resolve f layout range)

/-- The host finds the layer's copy wherever it found anything before. -/
theorem memory?_resolve (f : Handle → Handle) (layout : InstanceLayout) (range : BuildRange)
    (s : InstanceSource) :
    (s.resolve f layout range).memory? = s.memory?.map (·.resolve f layout range) := by
  unfold resolve
  cases h : s.memory? with
  | none => exact h
  | some memory => rfl

end InstanceSource

/-- What a geometry consists of. -/
inductive GeometryData
  | triangles (chain : Chain) (vertex : UInt64)
  | aabbs (address : UInt64)
  | instances (arrayOfPointers : UInt32) (source : InstanceSource)
  /-- A geometry of a type that the layer leaves alone. -/
  | other (type : Int)
  deriving DecidableEq, Repr, Inhabited

/-- One geometry of a build. -/
structure Geometry where
  flags : UInt32
  data : GeometryData
  deriving DecidableEq, Repr, Inhabited

/-- The number of the geometry type. -/
def GeometryData.type : GeometryData → Int
  | triangles .. => 0
  | aabbs _ => 1
  | instances .. => 2
  | other type => type

/-- How the instances of a geometry are laid out: only the number one stands for
pointers. -/
def layoutOf (arrayOfPointers : UInt32) : InstanceLayout :=
  if arrayOfPointers = 1 then .pointers else .flat

/-- The geometry as it is handed down.  Instances are copied only if a range is given. -/
def Geometry.resolve (w : Wrapper) (range : Option BuildRange) (g : Geometry) :
    Noted Geometry :=
  match g.data, range with
  | .triangles chain vertex, _ =>
    (Chain.copy w chain.blocks).map fun chain => { g with data := .triangles chain vertex }
  | .instances arrayOfPointers source, some range =>
    .quiet { g with
      data := .instances arrayOfPointers
        (source.resolve w.unwrap (layoutOf arrayOfPointers) range) }
  | _, _ => .quiet g

/-- One acceleration structure to build.  Geometries are given in an array or through an
array of pointers, some of which may be null. -/
structure BuildInfo where
  type : Int
  mode : Int
  src : Handle
  dst : Handle
  geometryCount : UInt32
  geometries : Option (List Geometry)
  pointers : Option (List (Option Geometry))
  deriving DecidableEq, Repr, Inhabited

namespace BuildInfo

/-- The geometries of a build, in order and without null pointers; the array goes before
the pointers. -/
def given (b : BuildInfo) : List Geometry :=
  match b.geometries with
  | some gs => gs.take b.geometryCount.toNat
  | none => ((b.pointers.getD []).take b.geometryCount.toNat).filterMap id

/-- The geometries as they are handed down, the j-th with range j. -/
def resolveAll (w : Wrapper) (ranges : Option (List BuildRange)) (gs : List Geometry) :
    Noted (List Geometry) :=
  Noted.collect (gs.zipIdx.map fun (g, j) => g.resolve w (ranges.bind fun rs => rs[j]?))

/-- The build as it is handed down: always with an array of geometries, if there are
any.  Ranges are given for builds on the host alone. -/
def resolve (w : Wrapper) (ranges : Option (List BuildRange)) (b : BuildInfo) :
    Noted BuildInfo :=
  (resolveAll w ranges b.given).map fun gs =>
    -- the count is not touched, even where null pointers were left out
    { b with
      src := w.unwrap b.src
      dst := w.unwrap b.dst
      geometries := if gs.isEmpty then b.geometries else some gs
      pointers := if gs.isEmpty then b.pointers else none }

end BuildInfo

end HandleLayer
