import HandleLayer.Description.Chain
import HandleLayer.Descriptor.Write
import HandleLayer.Request.Create

/-!
# Descriptions of descriptors

Descriptor writes, copies and queries, layouts of descriptor sets, and update templates
with their data.

## Main definitions

* `DescriptorWrite.ofDatum`, `DescriptorWrite.describe` and their like.
* `Template.fields`, `Datum.blob` — templates, and data for them.
-/

namespace HandleLayer

open Datum (ofWord ofU32 ofNat ofOption ofList ofWords)

/-! ### Writes and queries -/

/-- The payload of an image descriptor. -/
def ImageInfo.ofDatum (names : Names) (d : Datum) : ImageInfo :=
  ⟨(d.get "sampler").word names, (d.get "view").word names, (d.get "layout").int⟩

/-- The sampler, the view and the layout of a payload. -/
def ImageInfo.describe (i : ImageInfo) : Datum :=
  .record [("sampler", ofWord i.sampler), ("view", ofWord i.view), ("layout", .number i.layout)]

/-- The payload of a buffer descriptor. -/
def BufferInfo.ofDatum (names : Names) (d : Datum) : BufferInfo :=
  ⟨(d.get "buffer").word names, (d.get "offset").word names, (d.get "range").word names⟩

/-- The buffer and the part of it that a payload names. -/
def BufferInfo.describe (b : BufferInfo) : Datum :=
  .record [("buffer", ofWord b.buffer), ("offset", ofWord b.offset), ("range", ofWord b.range)]

/-- The type of descriptor under the key of that name. -/
def Datum.descriptorType (d : Datum) : DescriptorType := .ofCode (d.get "type").int

/-- Arrays that are given are filled up to the count. -/
def DescriptorWrite.ofDatum (names : Names) (d : Datum) : DescriptorWrite :=
  let count := (d.get "count").u32
  let array {α : Type} (key : String) (read : Datum → α) (zero : α) : Option (List α) :=
    (d.get key).optional fun xs => Datum.padded count.toNat zero (xs.items.map read)
  { set := (d.get "set").word names
    binding := (d.get "binding").u32
    element := (d.get "element").u32
    type := d.descriptorType
    count
    images := array "images" (ImageInfo.ofDatum names) ⟨0, 0, 0⟩
    buffers := array "buffers" (BufferInfo.ofDatum names) ⟨0, 0, 0⟩
    views := array "views" (Datum.word names) 0
    chain := d.chain names }

/-- A write with all its arrays and its chain. -/
def DescriptorWrite.describe (d : DescriptorWrite) : Datum :=
  .record [("set", ofWord d.set), ("binding", ofU32 d.binding), ("element", ofU32 d.element),
    ("type", .number d.type.code), ("count", ofU32 d.count),
    ("images", ofOption (ofList ImageInfo.describe) d.images),
    ("buffers", ofOption (ofList BufferInfo.describe) d.buffers),
    ("views", ofOption ofWords d.views), ("chain", d.chain.describe)]

/-- The copy between these sets. -/
def DescriptorCopy.ofDatum (names : Names) (d : Datum) : DescriptorCopy :=
  ⟨(d.get "src").word names, (d.get "dst").word names, (d.get "count").u32⟩

/-- The sets of a copy and the number of descriptors. -/
def DescriptorCopy.describe (c : DescriptorCopy) : Datum :=
  .record [("src", ofWord c.src), ("dst", ofWord c.dst), ("count", ofU32 c.count)]

/-- The range of addresses with this format. -/
def AddressInfo.ofDatum (names : Names) (d : Datum) : AddressInfo :=
  ⟨(d.get "address").word names, (d.get "range").word names, (d.get "format").int⟩

/-- A range of addresses with its format. -/
def AddressInfo.describe (a : AddressInfo) : Datum :=
  .record [("address", ofWord a.address), ("range", ofWord a.range), ("format", .number a.format)]

/-- The data for a descriptor of a type, which says what is read.  Only a text is the handle that
a pointer to a sampler leads to; without one the pointer is null. -/
def DescriptorData.ofDatum (names : Names) (type : DescriptorType) (d : Datum) :
    DescriptorData :=
  match type with
  | .sampler => .sampler ((d.get "sampler").string?.map fun s => Datum.word names (.text s))
  | .combinedImageSampler | .sampledImage | .storageImage | .inputAttachment =>
    .image ((d.get "image").optional (ImageInfo.ofDatum names))
  | .uniformTexelBuffer | .storageTexelBuffer | .uniformBuffer | .storageBuffer =>
    .addressInfo ((d.get "address_info").optional (AddressInfo.ofDatum names))
  | _ => .address ((d.get "address").word names)

/-- The data for a descriptor, under a key that says of which form it is. -/
def DescriptorData.describe : DescriptorData → Datum
  | .sampler s => .record [("sampler", ofOption ofWord s)]
  | .image i => .record [("image", ofOption ImageInfo.describe i)]
  | .addressInfo a => .record [("address_info", ofOption AddressInfo.describe a)]
  | .address a => .record [("address", ofWord a)]

/-- The query for a descriptor, whose type says how its data are read. -/
def DescriptorQuery.ofDatum (names : Names) (d : Datum) : DescriptorQuery where
  type := d.descriptorType
  data := .ofDatum names d.descriptorType (d.get "data")
  size := (d.get "size").word names
  chain := d.chain names

/-- The arguments of a query for a descriptor. -/
def DescriptorQuery.fields (q : DescriptorQuery) : List (String × Datum) :=
  [("type", .number q.type.code), ("data", q.data.describe), ("size", ofNat q.size.toNat),
    ("chain", q.chain.describe)]

/-! ### Layouts -/

/-- Without a count there are as many descriptors as samplers. -/
def Binding.ofDatum (names : Names) (d : Datum) : Binding :=
  let samplers := d.get "samplers"
  let count := ((d.get "count").optional Datum.u32).getD samplers.items.length.toUInt32
  { binding := (d.get "binding").u32
    type := d.descriptorType
    count
    samplers := samplers.optional fun xs => Datum.padded count.toNat 0 (xs.words names) }

/-- A binding with its samplers. -/
def Binding.describe (b : Binding) : Datum :=
  .record [("binding", ofU32 b.binding), ("type", .number b.type.code), ("count", ofU32 b.count),
    ("samplers", ofOption ofWords b.samplers)]

/-! ### Templates -/

/-- The entry with this place and this distance between its descriptors. -/
def TemplateEntry.ofDatum (names : Names) (d : Datum) : TemplateEntry where
  binding := (d.get "binding").u32
  element := (d.get "element").u32
  count := (d.get "count").u32
  type := d.descriptorType
  offset := (d.get "offset").word names
  stride := (d.get "stride").word names

/-- An entry as it was given. -/
def TemplateEntry.describe (e : TemplateEntry) : Datum :=
  .record [("binding", ofU32 e.binding), ("element", ofU32 e.element), ("count", ofU32 e.count),
    ("type", .number e.type.code), ("offset", ofNat e.offset.toNat),
    ("stride", ofNat e.stride.toNat)]

/-- The entries under the key of that name. -/
def Datum.entries (names : Names) (d : Datum) : AppArray TemplateEntry :=
  (d.get "entries").array (TemplateEntry.ofDatum names)

/-- The kind of a payload with its size. -/
def SlotKind.describe (k : SlotKind) : Datum := .list [.text k.name, ofNat k.size.toNat]

/-- The place of a payload, and its kind. -/
def TemplateSlot.describe (s : TemplateSlot) : Datum :=
  .list [ofNat s.offset.toNat, s.kind.describe]

/-- The entries of a template, and the payloads that they describe. -/
def Template.fields (t : Template) : List (String × Datum) :=
  [("type", .number t.type.code), ("entries", ofList TemplateEntry.describe t.entries),
    ("slots", ofList TemplateSlot.describe t.slots.value)]

/-- So many zero bytes with bytes and words put into them; none is a null pointer. -/
def Datum.blob (names : Names) (d : Datum) : Option Blob :=
  d.optional fun d =>
    let filled := (d.get "bytes").items.foldl
      (fun b x => b.store (x.item 0).nat (x.item 1).bytes) (Blob.zeros (d.get "size").nat)
    (d.get "put").items.foldl
      (fun b x => b.store (x.item 0).nat (wordBytes ((x.item 1).word names))) filled

/-- The bytes in hexadecimal. -/
def Blob.describe (b : Blob) : Datum := .ofBytes b.bytes.toList

end HandleLayer
