import HandleLayer.Blob
import HandleLayer.Descriptor.Slot
import HandleLayer.Wrapper

/-!
# Descriptor update templates

A template says where the payloads of descriptors lie in a blob of the application.  The
layer remembers it, so that it can rebuild the blob with the real handles in it.

## Main definitions

* `Template`, `Template.slots` — the entries, and the payloads they describe.
* `Template.build` — the rebuilt blob.

## Main results

* `size_writeSlots` — the rebuilt blob ends with the last slot.
-/

namespace HandleLayer

/-- One entry of a template: `count` descriptors, `stride` bytes apart. -/
structure TemplateEntry where
  binding : UInt32
  element : UInt32
  count : UInt32
  type : DescriptorType
  offset : UInt64
  stride : UInt64
  deriving DecidableEq, Repr, Inhabited

/-- A payload at its place in the blob. -/
structure TemplateSlot where
  offset : UInt64
  kind : SlotKind
  deriving DecidableEq, Repr, Inhabited

/-- The place behind a payload. -/
def TemplateSlot.stop (s : TemplateSlot) : UInt64 := s.offset + s.kind.size

/-- The kinds of template. -/
inductive TemplateType
  /-- The template updates a set of a known layout. -/
  | descriptorSet
  /-- The template pushes descriptors for a known pipeline layout. -/
  | pushDescriptors
  | other (code : Int)
  deriving DecidableEq, Repr, Inhabited

/-- The number of a kind of template. -/
def TemplateType.code : TemplateType → Int
  | .descriptorSet => 0
  | .pushDescriptors => 1
  | .other code => code

/-- The kind of template with this number. -/
def TemplateType.ofCode (code : Int) : TemplateType :=
  if code = 0 then .descriptorSet else if code = 1 then .pushDescriptors else .other code

/-- What the layer remembers of a template. -/
structure Template where
  type : TemplateType
  entries : List TemplateEntry
  deriving DecidableEq, Repr, Inhabited

namespace TemplateEntry

/-- The payloads of an entry, in order: one for each descriptor, but one alone for an
inline block. -/
def slotsOfKind (e : TemplateEntry) (kind : SlotKind) : List TemplateSlot :=
  match kind with
  | .inlineUniformBlock _ => [⟨e.offset, kind⟩]
  | _ => (List.range e.count.toNat).map fun j => ⟨e.offset + j.toUInt64 * e.stride, kind⟩

/-- The payloads of an entry; an entry of unknown type is left out. -/
def slots (e : TemplateEntry) : Noted (List TemplateSlot) :=
  match SlotKind.of e.type e.count with
  | .ok kind => .quiet (e.slotsOfKind kind)
  | .error _ => ⟨[], [.slotsSkipped e.type]⟩

end TemplateEntry

/-- The bytes of a payload with the real handles in it. -/
def TemplateSlot.payload (w : Wrapper) (data : Blob) (s : TemplateSlot) : List UInt8 :=
  let place := s.offset.toNat
  let handle (i : Nat) : List UInt8 := wordBytes (w.unwrap (data.word (place + 8 * i)))
  match s.kind with
  | .image => handle 0 ++ handle 1 ++ data.slice (place + 16) 8
  | .buffer => handle 0 ++ data.slice (place + 8) 16
  | .texelBufferView | .accelerationStructureKhr | .accelerationStructureNv => handle 0
  | .inlineUniformBlock size => data.slice place size.toNat

namespace Template

/-- The payloads that a template describes, in the order of its entries. -/
def slots (t : Template) : Noted (List TemplateSlot) :=
  (Noted.collect (t.entries.map TemplateEntry.slots)).map List.flatten

/-- The end of the last payload. -/
def extent (slots : List TemplateSlot) : UInt64 :=
  slots.foldl (fun n s => max n s.stop) 0

/-- The blob `built` with the payloads of `data` written into it in order. -/
def writeSlots (w : Wrapper) (data : Blob) (slots : List TemplateSlot) (built : Blob) : Blob :=
  slots.foldl (fun built s => built.write s.offset.toNat (s.payload w data)) built

/-- The blob rebuilt with the real handles: as long as the last payload needs, zero where
the template reads nothing, and all zero without data. -/
def build (t : Template) (w : Wrapper) (data : Option Blob) : Noted Blob :=
  t.slots.map fun slots =>
    let zeros := Blob.zeros (extent slots).toNat
    match data with
    | none => zeros
    | some data => writeSlots w data slots zeros

theorem size_writeSlots (w : Wrapper) (data : Blob) (slots : List TemplateSlot)
    (built : Blob) : (writeSlots w data slots built).size = built.size := by
  unfold writeSlots
  induction slots generalizing built with
  | nil => rfl
  | cons s slots ih => simp [List.foldl_cons, ih]

end Template

end HandleLayer
