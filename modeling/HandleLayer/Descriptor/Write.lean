import HandleLayer.Chain
import HandleLayer.Descriptor.Slot

/-!
# Descriptor writes

Descriptors are written one by one, copied from set to set, or read out for a descriptor
buffer.

## Main definitions

* `ImageInfo`, `BufferInfo` — payloads of two kinds.
* `DescriptorWrite`, `DescriptorCopy`, `DescriptorQuery` — the three requests.
* `DescriptorWrite.resolve`, `DescriptorQuery.resolve` — the forms handed down.
-/

namespace HandleLayer

/-- The payload of an image descriptor. -/
structure ImageInfo where
  sampler : Handle
  view : Handle
  layout : Int
  deriving DecidableEq, Repr, Inhabited

/-- The image payload with both handles replaced. -/
def ImageInfo.mapHandles (f : Handle → Handle) (i : ImageInfo) : ImageInfo :=
  { i with sampler := f i.sampler, view := f i.view }

/-- The payload of a buffer descriptor. -/
structure BufferInfo where
  buffer : Handle
  offset : UInt64
  range : UInt64
  deriving DecidableEq, Repr, Inhabited

/-- The buffer payload with the handle replaced. -/
def BufferInfo.mapHandles (f : Handle → Handle) (b : BufferInfo) : BufferInfo :=
  { b with buffer := f b.buffer }

/-! ### Writes -/

/-- One write into a set.  Of the three arrays only the one that belongs to the type
matters; none is a null pointer. -/
structure DescriptorWrite where
  set : Handle
  binding : UInt32
  element : UInt32
  type : DescriptorType
  count : UInt32
  images : Option (List ImageInfo)
  buffers : Option (List BufferInfo)
  views : Option (List Handle)
  chain : Chain
  deriving DecidableEq, Repr, Inhabited

/-- The write with the handles replaced in the array that belongs to its type; the other
arrays may be anything and are not touched. -/
def DescriptorWrite.mapPayload (f : Handle → Handle) (d : DescriptorWrite) :
    DescriptorWrite :=
  match SlotKind.of d.type d.count with
  | .ok .image => { d with images := d.images.map (·.map (ImageInfo.mapHandles f)) }
  | .ok .buffer => { d with buffers := d.buffers.map (·.map (BufferInfo.mapHandles f)) }
  | .ok .texelBufferView => { d with views := d.views.map (·.map f) }
  -- other payloads are in the chain; those of unknown types stay as they are
  | _ => d

/-- The write as it is handed down. -/
def DescriptorWrite.resolve (w : Wrapper) (d : DescriptorWrite) : Noted DescriptorWrite :=
  (Chain.copy w d.chain.blocks).map fun chain =>
    { d.mapPayload w.unwrap with set := w.unwrap d.set, chain }

/-- A copy of descriptors from one set to another. -/
structure DescriptorCopy where
  src : Handle
  dst : Handle
  count : UInt32
  deriving DecidableEq, Repr, Inhabited

/-- The copy with both sets replaced. -/
def DescriptorCopy.mapHandles (f : Handle → Handle) (c : DescriptorCopy) : DescriptorCopy :=
  { c with src := f c.src, dst := f c.dst }

/-! ### Queries -/

/-- A range of device addresses with a format. -/
structure AddressInfo where
  address : UInt64
  range : UInt64
  format : Int
  deriving DecidableEq, Repr, Inhabited

/-- What a descriptor is to be made of; none is a null pointer. -/
inductive DescriptorData
  | sampler (sampler : Option Handle)
  | image (image : Option ImageInfo)
  | addressInfo (info : Option AddressInfo)
  | address (address : UInt64)
  deriving DecidableEq, Repr, Inhabited

/-- A request for the bytes of a descriptor. -/
structure DescriptorQuery where
  type : DescriptorType
  data : DescriptorData
  /-- The number of bytes asked for. -/
  size : UInt64
  chain : Chain
  deriving DecidableEq, Repr, Inhabited

/-- The data with the handles replaced that belong to the type; addresses stay. -/
def DescriptorQuery.mapData (f : Handle → Handle) (q : DescriptorQuery) : DescriptorData :=
  match q.data with
  | .sampler s => if q.type = .sampler then .sampler (s.map f) else q.data
  | .image i =>
    match q.type with
    | .combinedImageSampler | .sampledImage | .storageImage | .inputAttachment =>
      .image (i.map (ImageInfo.mapHandles f))
    | _ => q.data
  | _ => q.data

/-- The query as it is handed down; its chain is dropped. -/
def DescriptorQuery.resolve (w : Wrapper) (q : DescriptorQuery) : DescriptorQuery :=
  { q with data := q.mapData w.unwrap, chain := .empty }

end HandleLayer
