import HandleLayer.Proofs.HandingDown
import HandleLayer.Proofs.TemplateBlobs

/-!
# Image descriptors

An image descriptor names a sampler and an image view.  It reaches the next layer in one of two
ways, in the array of a write or in the data for a template; in both, what becomes of its two
handles depends on its type.  Five types are known to be image descriptors.  Those of a type
that the layer does not know are passed on untouched in a write, and left out of the data.

## Main definitions

* `Placement.Spares` — whether a payload leaves a handle at a place alone.
* `TemplateEntry.place` — where a descriptor of an entry begins.

## Main results

* `Template.word_build` — a handle in a payload becomes the real one, whatever other payloads
  overlap it there.
* `Template.build_of_skipped` — an entry that describes nothing has no part in the data.
* `image_handles_by_type` — **the handles of image descriptors, by the types of these.**
-/

namespace HandleLayer

variable {σ : Type}

/-! ### Handles in payloads -/

/-- A payload spares a handle at a place if it has one just there itself, or lies elsewhere. -/
def Placement.Spares (q : Placement) (place : Nat) : Prop :=
  (∃ start ∈ q.kind.handles, q.place + start = place) ∨ q.stop ≤ place ∨ place + 8 ≤ q.place

instance (q : Placement) (place : Nat) : Decidable (q.Spares place) :=
  inferInstanceAs (Decidable (_ ∨ _))

/-- The handles of a payload lie within it. -/
theorem SlotKind.add_eight_le_room {kind : SlotKind} {start : Nat} (h : start ∈ kind.handles) :
    start + 8 ≤ kind.room := by
  cases kind with
  | image =>
    simp only [handles, List.mem_cons, List.not_mem_nil, or_false] at h
    rcases h with rfl | rfl <;> decide
  | inlineUniformBlock size => cases h
  | _ =>
    rw [List.mem_singleton.1 h]
    decide

/-- The last element with a property. -/
theorem List.exists_last {α : Type} (p : α → Bool) {xs : List α} (h : ∃ x ∈ xs, p x = true) :
    ∃ front x back, xs = front ++ x :: back ∧ p x = true ∧ ∀ y ∈ back, p y = false := by
  obtain ⟨x, hx, hp⟩ := h
  have hfound : (xs.reverse.find? p).isSome = true :=
    List.find?_isSome.2 ⟨x, List.mem_reverse.2 hx, hp⟩
  obtain ⟨y, hy⟩ := Option.isSome_iff_exists.1 hfound
  obtain ⟨hpy, before, after, hxs, hbefore⟩ := List.find?_eq_some_iff_append.1 hy
  refine ⟨after.reverse, y, before.reverse, ?_, hpy, fun z hz => ?_⟩
  · rw [← List.reverse_reverse xs, hxs]
    simp
  · simpa using hbefore z (List.mem_reverse.1 hz)

namespace Template

variable {t : Template} {p : Placement} {front back : List Placement}

/-- Every payload ends within the rebuilt blob. -/
theorem stop_le_size_build (hfits : t.Fits) (w : Wrapper) (data : Option Blob) (hp : p ∈ t.layout) :
    p.stop ≤ (t.build w data).value.size := by
  rw [size_build hfits]
  exact List.le_max?_getD_of_mem (List.mem_map_of_mem hp)

/-- The bytes of a payload are in the rebuilt blob where it is the last one over them. -/
theorem exists_getElem?_payload (hfits : t.Fits) (w : Wrapper) (data : Blob)
    (hlayout : t.layout = front ++ p :: back) :
    ∃ s : TemplateSlot, s.placement = p ∧ ∀ n < p.kind.room,
      (∀ q ∈ back, ¬ q.Covers (p.place + n)) →
      (s.payload w data)[n]? = some ((t.build w (some data)).value.byte (p.place + n)) := by
  have hslots := map_placement_slots hfits
  rw [hlayout] at hslots
  obtain ⟨before, rest, hfound, -, hrest⟩ := List.map_eq_append_iff.1 hslots
  obtain ⟨s, after, rfl, rfl, rfl⟩ := List.map_eq_cons_iff.1 hrest
  have hroom : s.placement.stop ≤ (Blob.zeros (extent t.slots.value).toNat).size := by
    rw [← size_writeSlots w data t.slots.value]
    exact stop_le_size_build hfits w (some data) (by simp [hlayout])
  refine ⟨s, rfl, fun n hn hlast => ?_⟩
  have hwritten := byte_writeSlots_of_last w data before after hn hroom
    fun s' hs' => hlast _ (List.mem_map_of_mem hs')
  rwa [← hfound] at hwritten

/-- A byte of a handle becomes that of the real one, if the payload is the last one over it. -/
theorem byte_build_of_last (hfits : t.Fits) (w : Wrapper) (data : Blob)
    (hlayout : t.layout = front ++ p :: back) {start j : Nat} (hstart : start ∈ p.kind.handles)
    (hj : j < 8) (hlast : ∀ q ∈ back, ¬ q.Covers (p.place + (start + j))) :
    (t.build w (some data)).value.byte (p.place + (start + j))
      = wordByte (w.unwrap (data.word (p.place + start))) j := by
  obtain ⟨s, rfl, hpayload⟩ := exists_getElem?_payload hfits w data hlayout
  have hinside : start + j < s.placement.kind.room :=
    Nat.lt_of_lt_of_le (Nat.add_lt_add_left hj start) (SlotKind.add_eight_le_room hstart)
  have hwritten := hpayload (start + j) hinside hlast
  rw [TemplateSlot.getElem?_payload_handle w data hstart hj] at hwritten
  exact (Option.some.inj hwritten).symm

/-- What is no handle in a payload stays as it is, if the payload is the last one over it. -/
theorem byte_build_other (hfits : t.Fits) (w : Wrapper) (data : Blob)
    (hlayout : t.layout = front ++ p :: back) {n : Nat} (hn : n < p.kind.room)
    (hother : ∀ start ∈ p.kind.handles, n < start ∨ start + 8 ≤ n)
    (hlast : ∀ q ∈ back, ¬ q.Covers (p.place + n)) :
    (t.build w (some data)).value.byte (p.place + n) = data.byte (p.place + n) := by
  obtain ⟨s, rfl, hpayload⟩ := exists_getElem?_payload hfits w data hlayout
  have hwritten := hpayload n hn hlast
  rw [TemplateSlot.getElem?_payload_other w data hn hother] at hwritten
  exact (Option.some.inj hwritten).symm

/-- **A handle in a payload becomes the real one**, unless a later payload lies across it. -/
theorem word_build (hfits : t.Fits) (w : Wrapper) (data : Blob)
    (hlayout : t.layout = front ++ p :: back) {start : Nat} (hstart : start ∈ p.kind.handles)
    (hspares : ∀ q ∈ back, q.Spares (p.place + start)) :
    (t.build w (some data)).value.word (p.place + start)
      = w.unwrap (data.word (p.place + start)) := by
  refine Blob.word_eq_of_holds fun j hj => ?_
  have hcovers : p.Covers (p.place + (start + j)) := by
    refine ⟨Nat.le_add_right _ _, Nat.add_lt_add_left ?_ _⟩
    exact Nat.lt_of_lt_of_le (Nat.add_lt_add_left hj start) (SlotKind.add_eight_le_room hstart)
  -- the last payload over the byte has a handle where this one has it
  have hsome : ∃ q ∈ p :: back, decide (q.Covers (p.place + (start + j))) = true :=
    ⟨p, List.mem_cons_self, decide_eq_true hcovers⟩
  obtain ⟨among, q, after, hsplit, hq, hafter⟩ := List.exists_last _ hsome
  have hq := of_decide_eq_true hq
  have hlast : ∀ q' ∈ after, ¬ q'.Covers (p.place + (start + j)) := fun q' hq' =>
    of_decide_eq_false (hafter q' hq')
  have hhandle : ∃ start' ∈ q.kind.handles, q.place + start' = p.place + start := by
    have hmem : q ∈ p :: back := by rw [hsplit]; simp
    rcases List.mem_cons.1 hmem with rfl | hback
    · exact ⟨start, hstart, rfl⟩
    · rcases hspares q hback with hsame | hbefore | hbehind
      · exact hsame
      · have := hq.2
        omega
      · have := hq.1
        omega
  obtain ⟨start', hstart', hplace⟩ := hhandle
  have hbyte : q.place + (start' + j) = p.place + (start + j) := by omega
  rw [← hbyte] at hlast
  have hlayout' : t.layout = (front ++ among) ++ q :: after := by
    rw [hlayout, hsplit, List.append_assoc]
  have hbuilt := byte_build_of_last hfits w data hlayout' hstart' hj hlast
  rw [hbyte, hplace] at hbuilt
  rw [Nat.add_assoc]
  exact hbuilt

/-- An entry that describes nothing has no part in the data. -/
theorem build_of_skipped (type : TemplateType) (before : List TemplateEntry) {e : TemplateEntry}
    (after : List TemplateEntry) (he : e.slots.value = []) (w : Wrapper) (data : Option Blob) :
    ((Template.mk type (before ++ e :: after)).build w data).value
      = ((Template.mk type (before ++ after)).build w data).value := by
  have hslots : (Template.mk type (before ++ e :: after)).slots.value
      = (Template.mk type (before ++ after)).slots.value := by
    show ((List.map _ (before ++ e :: after)).map Noted.value).flatten
      = ((List.map _ (before ++ after)).map Noted.value).flatten
    simp [he]
  unfold Template.build
  rw [Noted.value_map, Noted.value_map, hslots]

end Template

/-! ### Types of descriptors -/

theorem SlotKind.of_eq_image_iff {type : DescriptorType} {count : UInt32} :
    SlotKind.of type count = .ok .image ↔ type.isImage = true := by
  cases type <;> simp [SlotKind.of, DescriptorType.isImage]

namespace TemplateEntry

/-- Where the descriptor with this number begins. -/
def place (e : TemplateEntry) (j : Nat) : Nat := e.offset.toNat + j * e.stride.toNat

variable {e : TemplateEntry}

theorem layout_of_isImage (he : e.type.isImage = true) :
    e.layout = (List.range e.count.toNat).map fun j => ⟨e.place j, .image⟩ := by
  rw [layout_eq, SlotKind.of_eq_image_iff.2 he]
  rfl

/-- A descriptor of an entry among all payloads of its template. -/
theorem exists_layout_eq {kind : SlotKind}
    (he : e.layout = (List.range e.count.toNat).map fun j => ⟨e.place j, kind⟩) {j : Nat}
    (hj : j < e.count.toNat) (type : TemplateType) (before after : List TemplateEntry) :
    ∃ front, (Template.mk type (before ++ e :: after)).layout
      = front ++ ⟨e.place j, kind⟩ ::
        (e.layout.drop (j + 1) ++ after.flatMap TemplateEntry.layout) := by
  have hlength : j < e.layout.length := by simpa [he] using hj
  have hget : e.layout[j] = ⟨e.place j, kind⟩ := by simp [he]
  refine ⟨before.flatMap TemplateEntry.layout ++ e.layout.take j, ?_⟩
  show (before ++ e :: after).flatMap TemplateEntry.layout = _
  rw [List.flatMap_append, List.flatMap_cons, List.append_assoc, ← hget, ← List.cons_append,
    List.getElem_cons_drop, ← List.append_assoc (e.layout.take j), List.take_append_drop]

/-- An image descriptor of an entry among all payloads of its template. -/
theorem layout_split (he : e.type.isImage = true) {j : Nat} (hj : j < e.count.toNat)
    (type : TemplateType) (before after : List TemplateEntry) :
    ∃ front, (Template.mk type (before ++ e :: after)).layout
      = front ++ ⟨e.place j, .image⟩ ::
        (e.layout.drop (j + 1) ++ after.flatMap TemplateEntry.layout) :=
  exists_layout_eq (layout_of_isImage he) hj type before after

/-- An entry of a type that the layer does not know describes nothing. -/
theorem slots_of_other {code : Int} (he : e.type = .other code) : e.slots.value = [] := by
  unfold slots
  rw [he]
  rfl

end TemplateEntry

/-- The handles of a write are replaced where its type is known to be that of images. -/
theorem DescriptorWrite.images_resolve (w : Wrapper) (d : DescriptorWrite) :
    (d.resolve w).value.images
      = if d.type.isImage then d.images.map (·.map (ImageInfo.mapHandles w.unwrap))
        else d.images := by
  show (d.mapPayload w.unwrap).images = _
  obtain ⟨set, binding, element, type, count, images, buffers, views, chain⟩ := d
  cases type <;> rfl

theorem DescriptorWrite.type_resolve (w : Wrapper) (d : DescriptorWrite) :
    (d.resolve w).value.type = d.type := by
  show (d.mapPayload w.unwrap).type = _
  obtain ⟨set, binding, element, type, count, images, buffers, views, chain⟩ := d
  cases type <;> rfl

/-- **The handles of image descriptors, by the types of these.**  Writes that are handed down
have the real handles in their image arrays, where the type is one of the five that are known
to be image descriptors; with any other type, the array goes down as it is.

Take a template that is remembered and whose payloads all end at places that a word can count
to.  Data for it goes down rebuilt.  A descriptor of an image type that an entry describes lies
within the new data, and its sampler and its view are the real ones there, unless a later
payload lies across them.  An entry of a type that the layer does not know has no part in the
new data. -/
theorem image_handles_by_type [NextLayer σ] {s : Layer Tracked σ}
    (hs : s.world.wrapper.enabled = true) :
    let w := s.world.wrapper
    (∀ (writes : AppArray DescriptorWrite) (copies : AppArray DescriptorCopy) (out : Outputs),
      s.object.registry.chain.vetoes s.world.behaviour .updateDescriptorSets = false →
      s.object.table.provides .updateDescriptorSets = true →
      ∃ writes', ((Device.perform (.updateSets writes copies) out).run s).2.world.calls
          = s.world.calls ++ [⟨s.object.handle, .ofDevice (.updateSets writes'
              (copies.map (DescriptorCopy.mapHandles w.unwrap))), out.slots.map List.length⟩] ∧
        writes'.toList.map (fun d => (d.type, d.images)) = writes.toList.map fun d =>
          (d.type, if d.type.isImage then d.images.map (·.map (ImageInfo.mapHandles w.unwrap))
            else d.images)) ∧
    ∀ (r : DeviceRequest) (template : Handle) (data : Option Blob) (t : Template) (out : Outputs),
      r.data? = some (template, data) → s.object.own.templates.get? template = some t → t.Fits →
      s.object.registry.chain.vetoes s.world.behaviour r.command = false →
      s.object.table.provides r.command = true →
      ∃ r' built, ((Device.perform r out).run s).2.world.calls = s.world.calls ++
            [⟨s.object.handle, .ofDevice r', out.slots.map List.length⟩] ∧
        r'.data? = some (w.unwrap template, some built) ∧
        (∀ before e after, t.entries = before ++ e :: after → e.type.isImage = true →
          ∀ j < e.count.toNat, e.place j + 24 ≤ built.size ∧
            ∀ app, data = some app → ∀ start ∈ [0, 8],
              (∀ q ∈ e.layout.drop (j + 1) ++ after.flatMap TemplateEntry.layout,
                q.Spares (e.place j + start)) →
              built.word (e.place j + start) = w.unwrap (app.word (e.place j + start))) ∧
        ∀ before e after code, t.entries = before ++ e :: after → e.type = .other code →
          built = ((Template.mk t.type (before ++ after)).build w data).value := by
  intro w
  refine ⟨fun writes copies out hveto hprovides => ?_,
    fun r template data t out hr ht hfits hveto hprovides => ?_⟩
  · have hcalls := Device.calls_perform_of_asksOnce (r := .updateSets writes copies) hs
      (Device.asksOnce_relay _ out) rfl hveto hprovides
    rw [DeviceRequest.resolve_of_enabled hs] at hcalls
    refine ⟨_, hcalls, ?_⟩
    rw [value_resolveArray, AppArray.toList_map, List.map_map]
    refine List.map_congr_left fun d _ => ?_
    exact congrArg₂ Prod.mk (d.type_resolve w) (d.images_resolve w)
  · refine ⟨_, _, Device.calls_perform_of_data? hr hs hveto hprovides out,
      DeviceRequest.data?_resolve hr hs ht, fun before e after hentries he j hj => ?_,
      fun before e after code hentries he => ?_⟩
    · obtain ⟨front, hlayout⟩ := TemplateEntry.layout_split he hj t.type before after
      rw [← hentries] at hlayout
      refine ⟨Template.stop_le_size_build hfits w data (p := ⟨e.place j, .image⟩) ?_, ?_⟩
      · rw [hlayout]
        simp
      · rintro app rfl start hstart hspares
        exact Template.word_build hfits w app hlayout hstart hspares
    · obtain ⟨type, entries⟩ := t
      obtain rfl : entries = before ++ e :: after := hentries
      exact Template.build_of_skipped type before after (TemplateEntry.slots_of_other he) w data

/-- A sampler and a view are known.  In a write they are replaced, in one of a type that weighs
samples they are not; the data for a template has them at an odd place, and nothing of its
other entry. -/
theorem known_and_unknown_images :
    let weights := DescriptorType.ofCode 1000440000
    let images : Option (List ImageInfo) := some [⟨idAt 0, idAt 1, 5⟩]
    let write (type : DescriptorType) : DescriptorWrite :=
      { (default : DescriptorWrite) with type, images }
    let t : Template := ⟨.descriptorSet, [⟨0, 0, 1, .sampler, 3, 0⟩, ⟨1, 0, 1, weights, 40, 0⟩]⟩
    let app : Blob := ((Blob.zeros 64).write 3 (wordBytes (idAt 0))).write 11 (wordBytes (idAt 1))
    let device : Dispatch Tracked :=
      { handle := 0xe000
        apiVersion := 0
        table := ⟨[.updateDescriptorSets, .updateDescriptorSetWithTemplate]⟩
        registry := ⟨.new default [], []⟩
        own := Tracked.empty.setTemplate (idAt 2) t }
    let world : World Scripted :=
      { wrapper := ((Wrapper.new true).wrapNewMany [0x11, 0x22, 0x33]).2
        memory := .empty
        behaviour := default
        below := {}
        trace := #[] }
    let s : Layer Tracked Scripted := ⟨device, world⟩
    let r : DeviceRequest := .updateSetWithTemplate 0 (idAt 2) (some app)
    (s.world.wrapper.enabled = true ∧
        s.object.registry.chain.vetoes s.world.behaviour .updateDescriptorSets = false ∧
        s.object.table.provides .updateDescriptorSets = true ∧
        r.data? = some (idAt 2, some app) ∧ s.object.own.templates.get? (idAt 2) = some t ∧
        t.Fits ∧ s.object.registry.chain.vetoes s.world.behaviour r.command = false ∧
        s.object.table.provides r.command = true) ∧
      (∃ writes', ((Device.perform (.updateSets (.elems [write .sampler, write weights])
            (.elems [])) {}).run s).2.world.calls
          = [⟨0xe000, .ofDevice (.updateSets writes' (.elems [])), none⟩] ∧
        writes'.toList.map DescriptorWrite.images = [some [⟨0x11, 0x22, 5⟩], images]) ∧
      ∃ r' built, ((Device.perform r {}).run s).2.world.calls = [⟨0xe000, .ofDevice r', none⟩] ∧
        r'.data? = some (0x33, some built) ∧ 27 ≤ built.size ∧ built.word 3 = 0x11 ∧
        built.word 11 = 0x22 ∧
        built = ((Template.mk .descriptorSet [⟨0, 0, 1, .sampler, 3, 0⟩]).build s.world.wrapper
          (some app)).value := by
  intro weights images write t app device world s r
  have hwrapping : s.world.wrapper.enabled = true := rfl
  have hveto : s.object.registry.chain.vetoes s.world.behaviour .updateDescriptorSets = false :=
    by decide +kernel
  have hprovides : s.object.table.provides .updateDescriptorSets = true := by decide +kernel
  have ht : s.object.own.templates.get? (idAt 2) = some t := by decide +kernel
  have hlayout : t.layout = [⟨3, .image⟩] := by decide +kernel
  have hfits : t.Fits := by
    intro p hp
    rw [hlayout] at hp
    rw [List.mem_singleton.1 hp]
    decide
  have hveto' : s.object.registry.chain.vetoes s.world.behaviour r.command = false := by
    decide +kernel
  have hprovides' : s.object.table.provides r.command = true := by decide +kernel
  have hreal : s.world.wrapper.unwrap (idAt 0) = 0x11 ∧ s.world.wrapper.unwrap (idAt 1) = 0x22 ∧
      s.world.wrapper.unwrap (idAt 2) = 0x33 := by decide +kernel
  have hwords : app.word 3 = idAt 0 ∧ app.word 11 = idAt 1 := by decide +kernel
  obtain ⟨hwrites, hdata⟩ := image_handles_by_type hwrapping
  obtain ⟨writes', hcalls, himages⟩ := hwrites (.elems [write .sampler, write weights]) (.elems [])
    {} hveto hprovides
  obtain ⟨r', built, hcall, hr', himage, hother⟩ :=
    hdata r (idAt 2) (some app) t {} rfl ht hfits hveto' hprovides'
  obtain ⟨hroom, hhandles⟩ := himage [] ⟨0, 0, 1, .sampler, 3, 0⟩ [⟨1, 0, 1, weights, 40, 0⟩] rfl
    rfl 0 (by decide)
  refine ⟨⟨hwrapping, hveto, hprovides, rfl, ht, hfits, hveto', hprovides'⟩,
    ⟨writes', hcalls, ?_⟩, r', built, hcall, ?_, hroom, ?_, ?_, ?_⟩
  · have himages := congrArg (List.map Prod.snd) himages
    rw [List.map_map, List.map_map] at himages
    exact himages.trans (by decide +kernel)
  · rw [hr', hreal.2.2]
  · have hword := hhandles app rfl 0 (by decide) (by decide +kernel)
    exact hword.trans (by rw [← hreal.1, ← hwords.1]; rfl)
  · have hword := hhandles app rfl 8 (by decide) (by decide +kernel)
    exact hword.trans (by rw [← hreal.2.1, ← hwords.2]; rfl)
  · exact hother [⟨0, 0, 1, .sampler, 3, 0⟩] ⟨1, 0, 1, weights, 40, 0⟩ [] 1000440000 rfl rfl

end HandleLayer
