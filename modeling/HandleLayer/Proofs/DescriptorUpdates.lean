import HandleLayer.Proofs.ChainCopies
import HandleLayer.Proofs.ImageDescriptors

/-!
# Two ways to update descriptors

A descriptor is written with an element: an image, a part of a buffer, or the name of a view or
of an acceleration structure.  Elements reach the next layer in the array or the chain of a
write, or at their places in the data for a template.  The layer rewrites arrays and chains
handle by handle and data byte by byte; what the next layer reads in the end is the same.

Only acceleration structures can make a difference, which are in the chain of a write.  Behind a
block of unknown layout they are not in the layer's hands.

## Main definitions

* `Element`, `Blob.elementAt` — what descriptors are written with, and how it lies in data.
* `DescriptorWrite.elements`, `TemplateEntry.elements` — what the next layer reads of a write,
  and of data through an entry of a template.
* `DescriptorWrite.isCopied` — whether the layer copies what is written.

## Main results

* `DescriptorWrite.elements_resolve` — the elements of a write that goes down.
* `Template.elements_build` — the elements in data that goes down.
* `descriptor_updates_agree` — **both ways to update descriptors lead to the same elements.**
-/

namespace HandleLayer

variable {σ : Type}

/-! ### Elements -/

/-- What one descriptor is written with. -/
inductive Element
  | image (info : ImageInfo)
  | buffer (info : BufferInfo)
  | handle (h : Handle)
  /-- The bytes of an inline block. -/
  | raw (bytes : List UInt8)
  deriving DecidableEq, Repr

/-- The element with its handles replaced. -/
def Element.mapHandles (f : Handle → Handle) : Element → Element
  | image info => image (info.mapHandles f)
  | buffer info => buffer (info.mapHandles f)
  | handle h => handle (f h)
  | raw bytes => raw bytes

namespace Blob

/-- The signed number of 32 bits at a place. -/
def int32 (b : Blob) (place : Nat) : Int := (wordOfBytes (b.slice place 4)).toUInt32.toInt32.toInt

/-- The element of a kind at a place. -/
def elementAt (b : Blob) (kind : SlotKind) (place : Nat) : Element :=
  match kind with
  | .image => .image ⟨b.word place, b.word (place + 8), b.int32 (place + 16)⟩
  | .buffer => .buffer ⟨b.word place, b.word (place + 8), b.word (place + 16)⟩
  | .texelBufferView | .accelerationStructureKhr | .accelerationStructureNv =>
    .handle (b.word place)
  | .inlineUniformBlock size => .raw (b.slice place size.toNat)

/-- Where bytes are the same, so is what is read from them. -/
theorem slice_congr {b b' : Blob} {place count : Nat}
    (h : ∀ n < count, b.byte (place + n) = b'.byte (place + n)) :
    b.slice place count = b'.slice place count :=
  List.map_congr_left fun n hn => h n (List.mem_range.1 hn)

end Blob

/-! ### Elements of writes -/

/-- The acceleration structures in a block, if it is the one for this kind of payload. -/
def Block.structures? (kind : SlotKind) : Block → Option (AppArray Handle)
  | writeStructures hs => if kind = .accelerationStructureKhr then some hs else none
  | writeStructuresNv hs => if kind = .accelerationStructureNv then some hs else none
  | _ => none

theorem Block.structures?_copy (kind : SlotKind) (f : Handle → Handle) (b : Block) :
    (b.blankFeedback.mapHandles f).structures? kind
      = (b.structures? kind).map (AppArray.map f) := by
  cases b with
  | writeStructures hs | writeStructuresNv hs =>
    simp only [blankFeedback, mapHandles, structures?]
    split <;> rfl
  | _ => rfl

/-- What is found in the copy of a chain: what is in the copies, where one of them has it, and else
what the application has. -/
theorem Chain.findSome?_copy {β : Type} {find : Block → Option β} {f : β → β} {w : Wrapper}
    (hcopy : ∀ b, find (b.blankFeedback.mapHandles w.unwrap) = (find b).map f) (app : List Block) :
    (copy w app).value.blocks.findSome? find
      = if (app.takeWhile Block.isKnown).any fun b => (find b).isSome then
          (app.findSome? find).map f
        else app.findSome? find := by
  have hfound : ∀ blocks : List Block,
      (blocks.map fun b => b.blankFeedback.mapHandles w.unwrap).findSome? find
        = (blocks.findSome? find).map f := by
    intro blocks
    rw [List.findSome?_map, List.map_findSome?]
    exact congrArg (List.findSome? · blocks) (funext hcopy)
  have happ : app.findSome? find = ((app.takeWhile Block.isKnown).findSome? find).or
      ((app.dropWhile Block.isKnown).findSome? find) := by
    rw [← List.findSome?_append, List.takeWhile_append_dropWhile]
  have hsome : ((app.takeWhile Block.isKnown).any fun b => (find b).isSome)
      = ((app.takeWhile Block.isKnown).findSome? find).isSome := by
    rw [Bool.eq_iff_iff, List.any_eq_true, List.findSome?_isSome_iff]
  rw [blocks_copy, List.findSome?_append, hfound, happ, hsome]
  cases (app.takeWhile Block.isKnown).findSome? find <;> rfl

namespace SlotKind

/-- Whether a payload is written from an array of its own, and not from a chain. -/
def isArray : SlotKind → Bool
  | image | buffer | texelBufferView => true
  | accelerationStructureKhr | accelerationStructureNv | inlineUniformBlock _ => false

/-- Whether a payload is the bytes of an inline block. -/
def isInline : SlotKind → Bool
  | inlineUniformBlock _ => true
  | _ => false

/-- The count matters for inline blocks alone. -/
theorem of_eq_of_isInline {type : DescriptorType} {count : UInt32} {kind : SlotKind}
    (h : of type count = .ok kind) (hinline : kind.isInline = false) (count' : UInt32) :
    of type count' = .ok kind := by
  cases type with
  | inlineUniformBlock =>
    cases h
    cases hinline
  | _ => exact h

end SlotKind

namespace DescriptorWrite

/-- The acceleration structures that go with a write, from the first block that has any. -/
def structures (d : DescriptorWrite) (kind : SlotKind) : List Handle :=
  ((d.chain.blocks.findSome? (Block.structures? kind)).map AppArray.toList).getD []

/-- What the next layer reads of a write with payloads of a kind, in order; inline blocks are
left aside. -/
def elements (d : DescriptorWrite) : SlotKind → List Element
  | .image => ((d.images.getD []).take d.count.toNat).map .image
  | .buffer => ((d.buffers.getD []).take d.count.toNat).map .buffer
  | .texelBufferView => ((d.views.getD []).take d.count.toNat).map .handle
  | .accelerationStructureKhr => (d.structures .accelerationStructureKhr).map .handle
  | .accelerationStructureNv => (d.structures .accelerationStructureNv).map .handle
  | .inlineUniformBlock _ => []

/-- Whether the layer copies what is written: an array always, and what is in the chain if it is
there in front of the first block of unknown layout. -/
def isCopied (d : DescriptorWrite) (kind : SlotKind) : Bool :=
  kind.isArray ||
    (d.chain.blocks.takeWhile Block.isKnown).any fun b => (b.structures? kind).isSome

theorem count_resolve (w : Wrapper) (d : DescriptorWrite) :
    (d.resolve w).value.count = d.count := by
  show (d.mapPayload w.unwrap).count = _
  unfold mapPayload
  split <;> rfl

theorem structures_resolve (w : Wrapper) (d : DescriptorWrite) (kind : SlotKind) :
    (d.resolve w).value.structures kind
      = if (d.chain.blocks.takeWhile Block.isKnown).any fun b => (b.structures? kind).isSome then
          (d.structures kind).map w.unwrap
        else d.structures kind := by
  show (((Chain.copy w d.chain.blocks).value.blocks.findSome? _).map AppArray.toList).getD [] = _
  rw [Chain.findSome?_copy fun b => b.structures?_copy kind w.unwrap]
  unfold structures
  split
  · cases d.chain.blocks.findSome? (Block.structures? kind) <;> simp
  · rfl

/-- **The elements of a write that goes down**: those of the application with the real handles, if
the layer copies them, and else just as they are. -/
theorem elements_resolve (w : Wrapper) {d : DescriptorWrite} {kind : SlotKind}
    (hkind : SlotKind.of d.type d.count = .ok kind) :
    (d.resolve w).value.elements kind
      = if d.isCopied kind then (d.elements kind).map (Element.mapHandles w.unwrap)
        else d.elements kind := by
  have hpayload : ∀ d', d.mapPayload w.unwrap = d' →
      (d.resolve w).value.images = d'.images ∧ (d.resolve w).value.buffers = d'.buffers ∧
        (d.resolve w).value.views = d'.views ∧ (d.resolve w).value.count = d'.count := by
    rintro d' rfl
    exact ⟨rfl, rfl, rfl, rfl⟩
  unfold mapPayload at hpayload
  rw [hkind] at hpayload
  unfold isCopied
  -- the array that belongs to the kind is the only one that is looked at
  cases kind with
  | image =>
    obtain ⟨himages, -, -, hcount⟩ := hpayload _ rfl
    unfold elements
    rw [himages, hcount]
    cases d.images <;> simp [SlotKind.isArray, Element.mapHandles, Function.comp_def]
  | buffer =>
    obtain ⟨-, hbuffers, -, hcount⟩ := hpayload _ rfl
    unfold elements
    rw [hbuffers, hcount]
    cases d.buffers <;> simp [SlotKind.isArray, Element.mapHandles, Function.comp_def]
  | texelBufferView =>
    obtain ⟨-, -, hviews, hcount⟩ := hpayload _ rfl
    unfold elements
    rw [hviews, hcount]
    cases d.views <;> simp [SlotKind.isArray, Element.mapHandles, Function.comp_def]
  -- these are in the chain, which may be copied only in part
  | accelerationStructureKhr | accelerationStructureNv =>
    simp only [elements, structures_resolve, SlotKind.isArray, Bool.false_or]
    split
    · simp [Element.mapHandles, Function.comp_def]
    · rfl
  | inlineUniformBlock size =>
    split <;> rfl

end DescriptorWrite

/-! ### Elements in data for templates -/

namespace Template

variable {t : Template} {p : Placement} {front back : List Placement}

/-- **The element in data that goes down**, where no later payload lies over it. -/
theorem elementAt_build (hfits : t.Fits) (w : Wrapper) (data : Blob)
    (hlayout : t.layout = front ++ p :: back)
    (hapart : ∀ q ∈ back, q.stop ≤ p.place ∨ p.stop ≤ q.place) :
    (t.build w (some data)).value.elementAt p.kind p.place
      = (data.elementAt p.kind p.place).mapHandles w.unwrap := by
  -- the words that are handles are resolved
  have hhandle : ∀ start ∈ p.kind.handles,
      (t.build w (some data)).value.word (p.place + start)
        = w.unwrap (data.word (p.place + start)) := by
    intro start hstart
    refine word_build hfits w data hlayout hstart fun q hq => .inr ?_
    have hinside := SlotKind.add_eight_le_room hstart
    have hstop : p.stop = p.place + p.kind.room := rfl
    have := hapart q hq
    omega
  -- all bytes beside them are those of the application
  have hother : ∀ place count, place + count ≤ p.kind.room →
      (∀ start ∈ p.kind.handles, place + count ≤ start ∨ start + 8 ≤ place) →
      (t.build w (some data)).value.slice (p.place + place) count
        = data.slice (p.place + place) count := by
    intro place count hroom haway
    refine Blob.slice_congr fun n hn => ?_
    rw [Nat.add_assoc]
    refine byte_build_other hfits w data hlayout (by omega) (fun start hstart => ?_)
      fun q hq hcovers => ?_
    · have := haway start hstart
      omega
    · have hstop : p.stop = p.place + p.kind.room := rfl
      have := hapart q hq
      have := hcovers.1
      have := hcovers.2
      omega
  obtain ⟨place, kind⟩ := p
  cases kind with
  | image =>
    have hsampler := hhandle 0 (by simp [SlotKind.handles])
    have hview := hhandle 8 (by simp [SlotKind.handles])
    have hnumber := hother 16 4 (Nat.le_add_right 20 4) (by simp [SlotKind.handles])
    simp only [Nat.add_zero] at hsampler
    simp only [Blob.elementAt, Element.mapHandles, ImageInfo.mapHandles, Blob.int32, hsampler,
      hview, hnumber]
  | buffer =>
    have hbuffer := hhandle 0 (by simp [SlotKind.handles])
    have hoffset := hother 8 8 (Nat.le_add_right 16 8) (by simp [SlotKind.handles])
    have hrange := hother 16 8 (Nat.le_refl 24) (by simp [SlotKind.handles])
    simp only [Nat.add_zero] at hbuffer
    simp only [Blob.elementAt, Element.mapHandles, BufferInfo.mapHandles, hbuffer]
    unfold Blob.word
    rw [hoffset, hrange]
  | inlineUniformBlock size =>
    have hbytes := hother 0 size.toNat (Nat.le_of_eq (Nat.zero_add _)) (by simp [SlotKind.handles])
    exact congrArg Element.raw hbytes
  | texelBufferView | accelerationStructureKhr | accelerationStructureNv =>
    exact congrArg Element.handle (hhandle 0 (by simp [SlotKind.handles]))

end Template

namespace TemplateEntry

variable {e : TemplateEntry} {kind : SlotKind}

/-- What is read from data through an entry with payloads of a kind, in order. -/
def elements (e : TemplateEntry) (kind : SlotKind) (data : Blob) : List Element :=
  (List.range e.count.toNat).map fun j => data.elementAt kind (e.place j)

theorem layout_of_kind (hkind : SlotKind.of e.type e.count = .ok kind)
    (hinline : kind.isInline = false) :
    e.layout = (List.range e.count.toNat).map fun j => ⟨e.place j, kind⟩ := by
  rw [layout_eq, hkind]
  cases kind with
  | inlineUniformBlock size => cases hinline
  | _ => rfl

/-- Payloads that lie at least their size apart do not touch one another. -/
theorem apart_of_stride (hkind : SlotKind.of e.type e.count = .ok kind)
    (hinline : kind.isInline = false) (hstride : kind.size.toNat ≤ e.stride.toNat) {j : Nat} :
    ∀ q ∈ e.layout.drop (j + 1), (Placement.mk (e.place j) kind).stop ≤ q.place := by
  intro q hq
  obtain ⟨i, hi, rfl⟩ := List.mem_iff_getElem.1 hq
  simp only [layout_of_kind hkind hinline, List.getElem_drop, List.getElem_map,
    List.getElem_range]
  have hplace : e.place (j + 1 + i) = e.place j + (i + 1) * e.stride.toNat := by
    unfold place
    rw [Nat.add_assoc, Nat.add_comm 1 i, Nat.add_mul]
    omega
  have hgap : e.stride.toNat ≤ (i + 1) * e.stride.toNat :=
    Nat.le_mul_of_pos_left _ (Nat.succ_pos i)
  rw [kind.toNat_size] at hstride
  show e.place j + kind.room ≤ _
  omega

/-- **The elements in data that goes down**, where the payloads of the entry lie apart and no later
entry has payloads over them. -/
theorem elements_build {t : Template} (hfits : t.Fits) {before after : List TemplateEntry}
    (hentries : t.entries = before ++ e :: after) (hkind : SlotKind.of e.type e.count = .ok kind)
    (hinline : kind.isInline = false) (hstride : kind.size.toNat ≤ e.stride.toNat)
    (hapart : ∀ p ∈ e.layout, ∀ q ∈ after.flatMap TemplateEntry.layout,
      q.stop ≤ p.place ∨ p.stop ≤ q.place) (w : Wrapper) (data : Blob) :
    e.elements kind (t.build w (some data)).value
      = (e.elements kind data).map (Element.mapHandles w.unwrap) := by
  unfold elements
  rw [List.map_map]
  refine List.map_congr_left fun j hj => ?_
  have hlayout := layout_of_kind hkind hinline
  obtain ⟨front, hsplit⟩ := exists_layout_eq hlayout (List.mem_range.1 hj) t.type before after
  rw [← hentries] at hsplit
  have hmem : Placement.mk (e.place j) kind ∈ e.layout := by
    rw [hlayout]
    exact List.mem_map_of_mem hj
  refine Template.elementAt_build (p := ⟨e.place j, kind⟩) hfits w data hsplit fun q hq => ?_
  rcases List.mem_append.1 hq with hown | hother
  · exact .inr (apart_of_stride hkind hinline hstride q hown)
  · exact hapart _ hmem q hother

end TemplateEntry

/-! ### Both ways -/

/-- **Both ways to update descriptors lead to the same elements.**  A write and data for a template
go down while the same surrogates are known.  The type of the write is one that the layer knows,
other than that of inline blocks.  The template is remembered, with payloads that all end at
places that a word can count to.  One of its entries is of the type of the write and lays out
the elements that the write has, at least the size of a payload apart and with no later entry
over them.

Each request goes down once, and what goes down for the write has the same elements as what goes
down as data, in order: the elements of the application with the real handles.  An array is
enough for that.  What is written from the chain has to be there in front of the first block of
unknown layout; behind it, the write has the elements as they are for the application. -/
theorem descriptor_updates_agree [NextLayer σ] {s s' : Layer Tracked σ}
    (hs : s.world.wrapper.enabled = true) (hsame : s'.world.wrapper = s.world.wrapper)
    {writes : AppArray DescriptorWrite} {i : Nat} {d : DescriptorWrite}
    (hd : writes.toList[i]? = some d) (copies : AppArray DescriptorCopy) (out : Outputs)
    (hveto : s.object.registry.chain.vetoes s.world.behaviour .updateDescriptorSets = false)
    (hprovides : s.object.table.provides .updateDescriptorSets = true)
    {r : DeviceRequest} {template : Handle} {app : Blob} (hr : r.data? = some (template, some app))
    {t : Template} (ht : s'.object.own.templates.get? template = some t) (hfits : t.Fits)
    (out' : Outputs)
    (hveto' : s'.object.registry.chain.vetoes s'.world.behaviour r.command = false)
    (hprovides' : s'.object.table.provides r.command = true)
    {before after : List TemplateEntry} {e : TemplateEntry}
    (hentries : t.entries = before ++ e :: after) (htype : e.type = d.type) {kind : SlotKind}
    (hkind : SlotKind.of d.type d.count = .ok kind) (hinline : kind.isInline = false)
    (hstride : kind.size.toNat ≤ e.stride.toNat)
    (hapart : ∀ p ∈ e.layout, ∀ q ∈ after.flatMap TemplateEntry.layout,
      q.stop ≤ p.place ∨ p.stop ≤ q.place)
    (helements : e.elements kind app = d.elements kind) :
    let w := s.world.wrapper
    ∃ writes' d' r' built,
      ((Device.perform (.updateSets writes copies) out).run s).2.world.calls = s.world.calls ++
        [⟨s.object.handle, .ofDevice (.updateSets writes'
          (copies.map (DescriptorCopy.mapHandles w.unwrap))), out.slots.map List.length⟩] ∧
      writes'.toList[i]? = some d' ∧ d'.type = d.type ∧ d'.count = d.count ∧
      ((Device.perform r out').run s').2.world.calls = s'.world.calls ++
        [⟨s'.object.handle, .ofDevice r', out'.slots.map List.length⟩] ∧
      r'.data? = some (w.unwrap template, some built) ∧
      e.elements kind built = (d.elements kind).map (Element.mapHandles w.unwrap) ∧
      (d.isCopied kind = true → d'.elements kind = e.elements kind built) ∧
      (d.isCopied kind = false → d'.elements kind = d.elements kind) := by
  intro w
  have hcalls := Device.calls_perform_of_asksOnce (r := .updateSets writes copies) hs
    (Device.asksOnce_relay _ out) rfl hveto hprovides
  rw [DeviceRequest.resolve_of_enabled hs] at hcalls
  have hs' : s'.world.wrapper.enabled = true := by rw [hsame, hs]
  have hdata := DeviceRequest.data?_resolve hr hs' ht
  have hkind' : SlotKind.of e.type e.count = .ok kind := by
    rw [htype, SlotKind.of_eq_of_isInline hkind hinline]
  have hbuilt := TemplateEntry.elements_build hfits hentries hkind' hinline hstride hapart
    s'.world.wrapper app
  rw [hsame] at hdata hbuilt
  rw [helements] at hbuilt
  have hwritten := d.elements_resolve w hkind
  refine ⟨_, (d.resolve w).value, _, _, hcalls, ?_, d.type_resolve w, d.count_resolve w,
    Device.calls_perform_of_data? hr hs' hveto' hprovides' out', ?_, hbuilt, ?_, ?_⟩
  · rw [value_resolveArray, AppArray.toList_map, List.getElem?_map, hd]
    rfl
  · rw [hsame]
    exact hdata
  · intro hcopied
    rw [hwritten, if_pos hcopied]
    exact hbuilt.symm
  · intro hshared
    rw [hwritten, hshared]
    rfl

/-- Two parts of buffers, in a write and at odd places in the data for a template, with a view
behind them. -/
theorem buffers_updated_both_ways :
    let infos : List BufferInfo := [⟨idAt 0, 16, 32⟩, ⟨idAt 1, 64, 128⟩]
    let d : DescriptorWrite :=
      { (default : DescriptorWrite) with type := .uniformBuffer, count := 2, buffers := some infos }
    let e : TemplateEntry := ⟨0, 0, 2, .uniformBuffer, 3, 25⟩
    let t : Template := ⟨.descriptorSet, [e, ⟨1, 0, 1, .uniformTexelBuffer, 60, 8⟩]⟩
    let app : Blob := (Blob.zeros 68).write 3
      (wordBytes (idAt 0) ++ wordBytes 16 ++ wordBytes 32 ++ [9] ++ wordBytes (idAt 1)
        ++ wordBytes 64 ++ wordBytes 128)
    let s := (Scripted.device [.updateDescriptorSets, .updateDescriptorSetWithTemplate]
      [0x11, 0x22, 0x33]).withOwn (Tracked.empty.setTemplate (idAt 2) t)
    let r : DeviceRequest := .updateSetWithTemplate 0 (idAt 2) (some app)
    (s.world.wrapper.enabled = true ∧
        s.object.registry.chain.vetoes s.world.behaviour .updateDescriptorSets = false ∧
        s.object.table.provides .updateDescriptorSets = true ∧
        s.object.own.templates.get? (idAt 2) = some t ∧ t.Fits ∧
        s.object.registry.chain.vetoes s.world.behaviour r.command = false ∧
        s.object.table.provides r.command = true ∧ e.elements .buffer app = d.elements .buffer) ∧
      ∃ writes' d' r' built,
        ((Device.perform (.updateSets (.elems [d]) (.elems [])) {}).run s).2.world.calls
          = [⟨0xe000, .ofDevice (.updateSets writes' (.elems [])), none⟩] ∧
        writes'.toList[0]? = some d' ∧
        ((Device.perform r {}).run s).2.world.calls = [⟨0xe000, .ofDevice r', none⟩] ∧
        r'.data? = some (0x33, some built) ∧
        d'.elements .buffer = [.buffer ⟨0x11, 16, 32⟩, .buffer ⟨0x22, 64, 128⟩] ∧
        d'.elements .buffer = e.elements .buffer built := by
  intro infos d e t app s r
  have hs : s.world.wrapper.enabled = true := rfl
  have hveto : s.object.registry.chain.vetoes s.world.behaviour .updateDescriptorSets = false :=
    by decide +kernel
  have hprovides : s.object.table.provides .updateDescriptorSets = true := by decide +kernel
  have ht : s.object.own.templates.get? (idAt 2) = some t := by decide +kernel
  have hlayout : t.layout = [⟨3, .buffer⟩, ⟨28, .buffer⟩, ⟨60, .texelBufferView⟩] := by
    decide +kernel
  have hfits : t.Fits := by
    intro p hp
    rw [hlayout] at hp
    simp only [List.mem_cons, List.not_mem_nil, or_false] at hp
    rcases hp with rfl | rfl | rfl <;> decide
  have hveto' : s.object.registry.chain.vetoes s.world.behaviour r.command = false := by
    decide +kernel
  have hprovides' : s.object.table.provides r.command = true := by decide +kernel
  have hapart : ∀ p ∈ e.layout, ∀ q ∈ List.flatMap TemplateEntry.layout
      [⟨1, 0, 1, .uniformTexelBuffer, 60, 8⟩], q.stop ≤ p.place ∨ p.stop ≤ q.place := by
    decide +kernel
  have helements : e.elements .buffer app = d.elements .buffer := by decide +kernel
  have hreal : (d.elements .buffer).map (Element.mapHandles s.world.wrapper.unwrap)
      = [.buffer ⟨0x11, 16, 32⟩, .buffer ⟨0x22, 64, 128⟩] := by decide +kernel
  have htemplate : s.world.wrapper.unwrap (idAt 2) = 0x33 := by decide +kernel
  obtain ⟨writes', d', r', built, hcalls, hd', -, -, hcalls', hr', hbuilt, hcopied, -⟩ :=
    descriptor_updates_agree hs rfl (show (AppArray.elems [d]).toList[0]? = some d from rfl)
      (.elems []) {} hveto hprovides (r := r) rfl ht hfits {} hveto' hprovides'
      (show t.entries = [] ++ e :: [⟨1, 0, 1, .uniformTexelBuffer, 60, 8⟩] from rfl) rfl
      (show SlotKind.of d.type d.count = .ok .buffer from rfl) rfl (by decide) hapart helements
  rw [htemplate] at hr'
  refine ⟨⟨hs, hveto, hprovides, ht, hfits, hveto', hprovides', helements⟩, writes', d', r', built,
    hcalls, hd', hcalls', hr', ?_, hcopied rfl⟩
  rw [hcopied rfl, hbuilt, hreal]

/-- An acceleration structure behind a block of unknown layout goes down as it is in a write,
and as the real one in the data for a template. -/
theorem structure_behind_unknown_block :
    let d : DescriptorWrite :=
      { (default : DescriptorWrite) with
        type := .accelerationStructureKhr
        count := 1
        chain := .ofApp [.unknown 1000999000, .writeStructures (.elems [idAt 0])] }
    let e : TemplateEntry := ⟨0, 0, 1, .accelerationStructureKhr, 0, 8⟩
    let app : Blob := ⟨(wordBytes (idAt 0)).toArray⟩
    let s := (Scripted.device [.updateDescriptorSets, .updateDescriptorSetWithTemplate]
      [0x11, 0x22]).withOwn (Tracked.empty.setTemplate (idAt 1) ⟨.descriptorSet, [e]⟩)
    s.world.wrapper.enabled = true ∧
      e.elements .accelerationStructureKhr app = d.elements .accelerationStructureKhr ∧
      ((Device.perform (.updateSets (.elems [d]) (.elems [])) {}).run s).2.world.calls
        = [⟨0xe000, .ofDevice (.updateSets (.elems [d]) (.elems [])), none⟩] ∧
      d.elements .accelerationStructureKhr = [.handle (idAt 0)] ∧
      ((Device.perform (.updateSetWithTemplate 0 (idAt 1) (some app)) {}).run s).2.world.calls
        = [⟨0xe000, .ofDevice (.updateSetWithTemplate 0 0x22
            (some ⟨(wordBytes 0x11).toArray⟩)), none⟩] ∧
      e.elements .accelerationStructureKhr ⟨(wordBytes 0x11).toArray⟩ = [.handle 0x11] ∧
      idAt 0 ≠ 0x11 := by
  decide +kernel

end HandleLayer
