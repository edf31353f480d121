import Mathlib.Algebra.GroupWithZero.Nat
import HandleLayer.Proofs.ChainCopies
import HandleLayer.Proofs.Ids
import HandleLayer.Template

/-!
# Rebuilt blobs

The data for a template is rebuilt payload by payload.  The payloads may lie anywhere, and
one may lie over another: what the application reads there is decided by the last one, and
each is read from the application's own blob, however much of the new one is written
already.

## Main definitions

* `wordByte`, `Blob.Holds` — the bytes of a word, and a word in memory.
* `DataField`, `SlotKind.fields`, `SlotKind.room` — what a payload consists of, field by field.
* `Placement`, `Template.layout` — a payload at a place counted without bound, and all
  those that the entries of a template describe.
* `Template.Fits` — whether every payload ends at a place that a word can count to.
* `Placement.Rebuilds` — what a byte of a payload is to become.

## Main results

* `Template.map_placement_slots` — the payloads of a template that fits lie as described.
* `Template.byte_writeSlots_of_last` — the last payload over a byte decides it.
* `rebuilt_blobs` — **every byte of a rebuilt blob.**
-/

namespace HandleLayer

/-! ### Words and their bytes -/

/-- The byte with this number of a word, counted from the lowest. -/
def wordByte (w : UInt64) (n : Nat) : UInt8 := .ofNat (w.toNat / 256 ^ n)

theorem toNat_wordByte (w : UInt64) (n : Nat) :
    (wordByte w n).toNat = w.toNat / 256 ^ n % 256 := UInt8.toNat_ofNat'

@[simp] theorem length_wordBytes (w : UInt64) : (wordBytes w).length = 8 := by
  simp [wordBytes]

theorem getElem?_wordBytes (w : UInt64) {n : Nat} (hn : n < 8) :
    (wordBytes w)[n]? = some (wordByte w n) := by
  have hshift : ((w >>> (8 * n).toUInt64).toUInt8).toNat = (wordByte w n).toNat := by
    have hplaces : (8 * n) % 2 ^ 64 % 64 = 8 * n := by omega
    have hpow : (2 : Nat) ^ (8 * n) = 256 ^ n := Nat.pow_mul 2 8 n
    rw [toNat_wordByte, UInt64.toNat_toUInt8, UInt64.toNat_shiftRight]
    show w.toNat >>> ((8 * n) % 2 ^ 64 % 64) % 256 = _
    rw [hplaces, Nat.shiftRight_eq_div_pow, hpow]
  rw [wordBytes, List.getElem?_map, List.getElem?_range hn]
  exact congrArg some (UInt8.toNat_inj.1 hshift)

/-- A word read from few enough bytes loses none of them. -/
theorem toNat_wordOfBytes {bytes : List UInt8} (h : bytes.length ≤ 8) :
    (wordOfBytes bytes).toNat < 256 ^ bytes.length ∧
      ∀ n < bytes.length, bytes[n]? = some (wordByte (wordOfBytes bytes) n) := by
  induction bytes with
  | nil => exact ⟨by decide, fun n hn => absurd hn (Nat.not_lt_zero n)⟩
  | cons b rest ih =>
    have hlen : rest.length ≤ 7 := by
      rw [List.length_cons] at h
      omega
    obtain ⟨hlt, hbytes⟩ := ih (by omega)
    have hb : b.toNat < 256 := b.toNat_lt
    have hpow : 256 ^ rest.length ≤ 256 ^ 7 := Nat.pow_le_pow_right (by decide) hlen
    have hroom : (wordOfBytes rest).toNat * 256 < 2 ^ 64 := by omega
    -- nothing is shifted out, so that the lowest byte and the rest do not meet
    have hword : (wordOfBytes (b :: rest)).toNat = b.toNat + 256 * (wordOfBytes rest).toNat := by
      have hshift : (wordOfBytes rest <<< 8).toNat = (wordOfBytes rest).toNat <<< 8 := by
        rw [UInt64.toNat_shiftLeft]
        show (wordOfBytes rest).toNat <<< 8 % 2 ^ 64 = _
        rw [Nat.shiftLeft_eq]
        exact Nat.mod_eq_of_lt hroom
      rw [wordOfBytes, UInt64.toNat_or, hshift, UInt8.toNat_toUInt64, Nat.or_comm,
        ← Nat.shiftLeft_add_eq_or_of_lt hb, Nat.shiftLeft_eq]
      omega
    refine ⟨?_, fun n hn => ?_⟩
    · rw [hword, List.length_cons, Nat.pow_succ]
      omega
    · cases n with
      | zero =>
        rw [List.getElem?_cons_zero, wordByte, hword, Nat.pow_zero, Nat.div_one]
        refine congrArg some (UInt8.toNat_inj.1 ?_)
        rw [UInt8.toNat_ofNat']
        omega
      | succ n =>
        have hrest : (b.toNat + 256 * (wordOfBytes rest).toNat) / 256
            = (wordOfBytes rest).toNat := by omega
        rw [List.getElem?_cons_succ, hbytes n (by simpa using hn), wordByte, wordByte, hword,
          Nat.pow_succ', ← Nat.div_div_eq_div_mul, hrest]

theorem getElem?_wordBytes_append (w : UInt64) (rest : List UInt8) {n : Nat} (hn : n < 8) :
    (wordBytes w ++ rest)[n]? = some (wordByte w n) := by
  rw [List.getElem?_append_left (by simpa using hn), getElem?_wordBytes w hn]

theorem getElem?_wordBytes_append_add (w : UInt64) (rest : List UInt8) (n : Nat) :
    (wordBytes w ++ rest)[8 + n]? = rest[n]? := by
  rw [List.getElem?_append_right (by simp), length_wordBytes, Nat.add_sub_cancel_left]

/-- A word is determined by its bytes. -/
theorem eq_of_wordByte {a b : UInt64} (h : ∀ n < 8, wordByte a n = wordByte b n) : a = b := by
  have hlow : ∀ n ≤ 8, a.toNat % 256 ^ n = b.toNat % 256 ^ n := by
    intro n hn
    induction n with
    | zero => rw [Nat.pow_zero, Nat.mod_one, Nat.mod_one]
    | succ n ih =>
      have hdigit : a.toNat / 256 ^ n % 256 = b.toNat / 256 ^ n % 256 := by
        rw [← toNat_wordByte, ← toNat_wordByte, h n (by omega)]
      rw [Nat.mod_pow_succ, Nat.mod_pow_succ, ih (by omega), hdigit]
  have hall : a.toNat % 2 ^ 64 = b.toNat % 2 ^ 64 := hlow 8 (Nat.le_refl 8)
  rw [Nat.mod_eq_of_lt a.toNat_lt, Nat.mod_eq_of_lt b.toNat_lt] at hall
  exact UInt64.toNat_inj.1 hall

namespace Blob

/-- Whether the word `h` is in memory at a place. -/
def Holds (b : Blob) (place : Nat) (h : UInt64) : Prop :=
  ∀ n < 8, b.byte (place + n) = wordByte h n

/-- The word read at a place is the one that is there. -/
theorem holds_word (b : Blob) (place : Nat) : b.Holds place (b.word place) := by
  intro n hn
  have hslice : (b.slice place 8)[n]? = some (b.byte (place + n)) := by
    rw [getElem?_slice, if_pos hn]
  have hbytes := (@toNat_wordOfBytes (b.slice place 8) (by simp)).2 n (by simpa using hn)
  rw [hslice] at hbytes
  exact Option.some.inj hbytes

/-- The word read at a place is the only one that is there. -/
theorem word_eq_of_holds {b : Blob} {place : Nat} {h : UInt64} (hh : b.Holds place h) :
    b.word place = h :=
  eq_of_wordByte fun n hn => (b.holds_word place n hn).symm.trans (hh n hn)

end Blob

/-! ### What payloads look like -/

/-- A field of a payload. -/
inductive DataField
  /-- A handle of an object of this type. -/
  | handle (type : ObjectType)
  | plain (size : Nat)
  /-- Bytes that belong to nothing. -/
  | padding (size : Nat)
  deriving DecidableEq, Repr

namespace DataField

/-- The number of bytes of a field. -/
def size : DataField → Nat
  | handle _ => 8
  | plain size | padding size => size

/-- Fields one behind the other, with the places where they begin. -/
def places (start : Nat) : List DataField → List (Nat × DataField)
  | [] => []
  | f :: fs => (start, f) :: places (start + f.size) fs

end DataField

namespace SlotKind

/-- The fields of a payload of a kind, as the interface lays them out: an image descriptor ends
with a number of four bytes for the image layout, a part of a buffer with its offset and its
range. -/
def fields : SlotKind → List DataField
  | image => [.handle .sampler, .handle .imageView, .plain 4, .padding 4]
  | buffer => [.handle .buffer, .plain 8, .plain 8]
  | texelBufferView => [.handle .bufferView]
  | accelerationStructureKhr | accelerationStructureNv => [.handle .accelerationStructure]
  | inlineUniformBlock size => [.plain size.toNat]

/-- The number of bytes of all these fields. -/
def room (kind : SlotKind) : Nat := (kind.fields.map DataField.size).sum

/-- The size that the layer counts with is that of the fields. -/
theorem toNat_size (kind : SlotKind) : kind.size.toNat = kind.room := by
  cases kind with
  | inlineUniformBlock size => simp [SlotKind.size, room, fields, DataField.size]
  | _ => rfl

end SlotKind

/-! ### Payloads at their places -/

/-- A payload at a place, which is counted without bound. -/
structure Placement where
  place : Nat
  kind : SlotKind
  deriving DecidableEq, Repr

namespace Placement

/-- The place behind the payload. -/
def stop (p : Placement) : Nat := p.place + p.kind.room

/-- Whether a byte belongs to the payload. -/
def Covers (p : Placement) (i : Nat) : Prop := p.place ≤ i ∧ i < p.stop

instance (p : Placement) (i : Nat) : Decidable (p.Covers i) :=
  inferInstanceAs (Decidable (_ ∧ _))

end Placement

namespace TemplateEntry

/-- Payloads of a kind for all the descriptors of an entry, the stride apart. -/
def spread (e : TemplateEntry) (kind : SlotKind) : List Placement :=
  (List.range e.count.toNat).map fun j => ⟨e.offset.toNat + j * e.stride.toNat, kind⟩

/-- Where the payloads of an entry lie, by the types of descriptors: one for each descriptor;
one alone for an inline block, which has as many bytes as the count says; none where the type is
not supported. -/
def layout (e : TemplateEntry) : List Placement :=
  match e.type with
  | .sampler | .combinedImageSampler | .sampledImage | .storageImage | .inputAttachment =>
    e.spread .image
  | .uniformBuffer | .storageBuffer | .uniformBufferDynamic | .storageBufferDynamic =>
    e.spread .buffer
  | .uniformTexelBuffer | .storageTexelBuffer => e.spread .texelBufferView
  | .accelerationStructureKhr => e.spread .accelerationStructureKhr
  | .accelerationStructureNv => e.spread .accelerationStructureNv
  | .inlineUniformBlock => [⟨e.offset.toNat, .inlineUniformBlock e.count⟩]
  | .other _ => []

/-- The layer knows the same types. -/
theorem layout_eq (e : TemplateEntry) :
    e.layout = match SlotKind.of e.type e.count with
      | .ok (.inlineUniformBlock size) => [⟨e.offset.toNat, .inlineUniformBlock size⟩]
      | .ok kind => e.spread kind
      | .error _ => [] := by
  obtain ⟨binding, element, count, type, offset, stride⟩ := e
  cases type <;> rfl

end TemplateEntry

/-- Where a payload lies that the layer has found. -/
def TemplateSlot.placement (s : TemplateSlot) : Placement := ⟨s.offset.toNat, s.kind⟩

namespace Template

/-- Where the payloads of a template lie, in the order of its entries. -/
def layout (t : Template) : List Placement := t.entries.flatMap TemplateEntry.layout

/-- Whether every payload ends at a place that a word can count to. -/
def Fits (t : Template) : Prop := ∀ p ∈ t.layout, p.stop < 2 ^ 64

end Template

namespace TemplateEntry

/-- Payloads that end within bounds begin where they are said to. -/
theorem map_placement_spread {e : TemplateEntry} {kind : SlotKind}
    (h : ∀ j < e.count.toNat,
      (Placement.mk (e.offset.toNat + j * e.stride.toNat) kind).stop < 2 ^ 64) :
    ((List.range e.count.toNat).map fun j =>
        TemplateSlot.mk (e.offset + j.toUInt64 * e.stride) kind).map TemplateSlot.placement
      = e.spread kind := by
  rw [List.map_map, spread]
  refine List.map_congr_left fun j hj => ?_
  have hj : j < e.count.toNat := List.mem_range.1 hj
  have hcount : e.count.toNat < 2 ^ 32 := e.count.toNat_lt
  have hstop : e.offset.toNat + j * e.stride.toNat + kind.room < 2 ^ 64 := h j hj
  have hindex : j.toUInt64.toNat = j := Nat.mod_eq_of_lt (by omega)
  have hplace : (e.offset + j.toUInt64 * e.stride).toNat
      = e.offset.toNat + j * e.stride.toNat := by
    rw [UInt64.toNat_add, UInt64.toNat_mul, hindex, Nat.mod_eq_of_lt (a := j * _) (by omega)]
    exact Nat.mod_eq_of_lt (by omega)
  exact congrArg (Placement.mk · kind) hplace

theorem map_placement_slots {e : TemplateEntry} (h : ∀ p ∈ e.layout, p.stop < 2 ^ 64) :
    e.slots.value.map TemplateSlot.placement = e.layout := by
  rw [layout_eq] at h ⊢
  unfold slots
  cases hkind : SlotKind.of e.type e.count with
  | error _ => rfl
  | ok kind =>
    rw [hkind] at h
    cases kind with
    | inlineUniformBlock size => rfl
    | _ => exact map_placement_spread fun j hj => h _ (List.mem_map_of_mem (List.mem_range.2 hj))

end TemplateEntry

namespace Template

/-- The payloads of a template that fits lie as its entries describe. -/
theorem map_placement_slots {t : Template} (hfits : t.Fits) :
    t.slots.value.map TemplateSlot.placement = t.layout := by
  obtain ⟨type, entries⟩ := t
  unfold Fits layout at hfits
  show (entries.map TemplateEntry.slots |>.map Noted.value).flatten.map _
    = entries.flatMap TemplateEntry.layout
  induction entries with
  | nil => rfl
  | cons e entries ih =>
    have hhead : e.slots.value.map TemplateSlot.placement = e.layout :=
      TemplateEntry.map_placement_slots fun p hp => hfits p (by simp [hp])
    have htail := ih fun p hp => hfits p (by
      rw [List.flatMap_cons]
      exact List.mem_append_right _ hp)
    rw [List.map_cons, List.map_cons, List.flatten_cons, List.map_append, hhead, htail,
      List.flatMap_cons]

end Template

/-! ### The size -/

theorem toNat_max (a b : UInt64) : (max a b).toNat = max a.toNat b.toNat := by
  show (if a ≤ b then b else a).toNat = _
  simp only [UInt64.le_iff_toNat_le]
  split <;> omega

/-- The end of a payload does not go round where it is within bounds. -/
theorem TemplateSlot.toNat_stop {s : TemplateSlot} (h : s.placement.stop < 2 ^ 64) :
    s.stop.toNat = s.placement.stop := by
  rw [stop, UInt64.toNat_add, s.kind.toNat_size]
  exact Nat.mod_eq_of_lt h

namespace Template

theorem toNat_extent (slots : List TemplateSlot) :
    (extent slots).toNat = ((slots.map fun s => s.stop.toNat).max?).getD 0 := by
  have hfold : ∀ n : UInt64, (slots.foldl (fun n s => max n s.stop) n).toNat
      = (slots.map fun s => s.stop.toNat).foldl max n.toNat := by
    induction slots with
    | nil => intro n; rfl
    | cons s slots ih =>
      intro n
      rw [List.foldl_cons, ih, toNat_max, List.map_cons, List.foldl_cons]
  rw [extent, hfold, List.foldl_max]
  simp

/-- The size of a rebuilt blob is the largest end of a payload. -/
theorem size_build {t : Template} (hfits : t.Fits) (w : Wrapper) (data : Option Blob) :
    (t.build w data).value.size = ((t.layout.map Placement.stop).max?).getD 0 := by
  have hstops : (t.slots.value.map fun s => s.stop.toNat) = t.layout.map Placement.stop := by
    have hslots := map_placement_slots hfits
    rw [← hslots, List.map_map]
    refine List.map_congr_left fun s hs => TemplateSlot.toNat_stop (hfits _ ?_)
    rw [← hslots]
    exact List.mem_map_of_mem hs
  have hzeros : (Blob.zeros (extent t.slots.value).toNat).size
      = ((t.layout.map Placement.stop).max?).getD 0 := by
    rw [Blob.size_zeros, toNat_extent, hstops]
  cases data with
  | none => exact hzeros
  | some data => exact (size_writeSlots w data _ _).trans hzeros

end Template

/-! ### The bytes -/

/-- Where the handles in a payload of a kind begin. -/
def SlotKind.handles : SlotKind → List Nat
  | image => [0, 8]
  | inlineUniformBlock _ => []
  | _ => [0]

theorem SlotKind.mem_handles {kind : SlotKind} {start : Nat} {type : ObjectType}
    (h : (start, .handle type) ∈ DataField.places 0 kind.fields) : start ∈ kind.handles := by
  cases kind with
  | image =>
    simp only [fields, DataField.places, DataField.size, List.mem_cons, Prod.mk.injEq,
      DataField.handle.injEq, reduceCtorEq, and_false, or_false, List.not_mem_nil] at h
    simp only [handles, List.mem_cons, List.not_mem_nil, or_false]
    omega
  | inlineUniformBlock size => simp [fields, DataField.places] at h
  | _ =>
    simp only [fields, DataField.places, List.mem_cons, Prod.mk.injEq, DataField.handle.injEq,
      reduceCtorEq, and_false, or_false, List.not_mem_nil] at h
    exact List.mem_singleton.2 h.1

/-- A plain field lies within the payload and beside its handles. -/
theorem SlotKind.plain_apart {kind : SlotKind} {start size j : Nat}
    (h : (start, .plain size) ∈ DataField.places 0 kind.fields) (hj : j < size) :
    start + j < kind.room ∧
      ∀ start' ∈ kind.handles, start + j < start' ∨ start' + 8 ≤ start + j := by
  cases kind with
  | image | buffer =>
    simp only [fields, DataField.places, DataField.size, List.mem_cons, Prod.mk.injEq,
      DataField.plain.injEq, reduceCtorEq, and_false, false_or, or_false, List.not_mem_nil] at h
    simp only [room, fields, DataField.size, handles, List.map_cons, List.map_nil, List.sum_cons,
      List.sum_nil, List.forall_mem_cons]
    simp
    omega
  | inlineUniformBlock bytes =>
    simp only [fields, DataField.places, List.mem_cons, Prod.mk.injEq, DataField.plain.injEq,
      List.not_mem_nil, or_false] at h
    obtain ⟨rfl, rfl⟩ := h
    refine ⟨?_, fun _ hmem => absurd hmem List.not_mem_nil⟩
    rw [Nat.zero_add]
    exact hj
  | _ => simp [fields, DataField.places] at h

namespace TemplateSlot

variable (w : Wrapper) (data : Blob) (s : TemplateSlot)

@[simp] theorem length_payload : (s.payload w data).length = s.kind.room := by
  rw [← s.kind.toNat_size]
  obtain ⟨offset, kind⟩ := s
  cases kind <;> simp [payload, SlotKind.size]

variable {s}

/-- A handle in a payload becomes the real one. -/
theorem getElem?_payload_handle {start j : Nat} (hstart : start ∈ s.kind.handles) (hj : j < 8) :
    (s.payload w data)[start + j]?
      = some (wordByte (w.unwrap (data.word (s.placement.place + start))) j) := by
  obtain ⟨offset, kind⟩ := s
  cases kind with
  | image =>
    simp only [SlotKind.handles, List.mem_cons, List.not_mem_nil, or_false] at hstart
    simp only [payload, placement, List.append_assoc]
    rcases hstart with rfl | rfl
    · rw [Nat.zero_add, getElem?_wordBytes_append _ _ hj]
    · rw [getElem?_wordBytes_append_add, getElem?_wordBytes_append _ _ hj]
  | buffer =>
    rw [List.mem_singleton.1 hstart, Nat.zero_add, payload, getElem?_wordBytes_append _ _ hj]
    rfl
  | inlineUniformBlock size => cases hstart
  | _ =>
    rw [List.mem_singleton.1 hstart, Nat.zero_add, payload, getElem?_wordBytes _ hj]
    rfl

/-- What is no handle in a payload stays as it is. -/
theorem getElem?_payload_other {n : Nat} (hn : n < s.kind.room)
    (hother : ∀ start ∈ s.kind.handles, n < start ∨ start + 8 ≤ n) :
    (s.payload w data)[n]? = some (data.byte (s.placement.place + n)) := by
  obtain ⟨offset, kind⟩ := s
  cases kind with
  | image =>
    have hn : n < 24 := hn
    have hfirst := hother 0 (by simp [SlotKind.handles])
    have hsecond := hother 8 (by simp [SlotKind.handles])
    obtain ⟨m, rfl⟩ : ∃ m, n = 8 + (8 + m) := ⟨n - 16, by omega⟩
    simp only [payload, placement, List.append_assoc]
    rw [getElem?_wordBytes_append_add, getElem?_wordBytes_append_add, Blob.getElem?_slice,
      if_pos (by omega)]
    congr 2
    omega
  | buffer =>
    have hn : n < 24 := hn
    have hfirst := hother 0 (by simp [SlotKind.handles])
    obtain ⟨m, rfl⟩ : ∃ m, n = 8 + m := ⟨n - 8, by omega⟩
    simp only [payload, placement]
    rw [getElem?_wordBytes_append_add, Blob.getElem?_slice, if_pos (by omega)]
    congr 2
    omega
  | inlineUniformBlock size =>
    have hn : n < size.toNat := hn
    rw [payload, Blob.getElem?_slice, if_pos hn]
    rfl
  | _ =>
    -- a payload that is one handle has no other bytes
    have hn : n < 8 := hn
    have hfirst := hother 0 (by simp [SlotKind.handles])
    omega

end TemplateSlot

namespace Template

variable (w : Wrapper) (data : Blob)

/-- What no payload covers is not written. -/
theorem byte_writeSlots_of_uncovered {slots : List TemplateSlot} (built : Blob) {i : Nat}
    (h : ∀ s ∈ slots, ¬ s.placement.Covers i) :
    (writeSlots w data slots built).byte i = built.byte i := by
  induction slots generalizing built with
  | nil => rfl
  | cons s slots ih =>
    have hhead : ¬ s.placement.Covers i := h s List.mem_cons_self
    have hwrite : (built.write s.offset.toNat (s.payload w data)).byte i = built.byte i := by
      rw [Blob.byte_write]
      split
      case isTrue hplace =>
        have hbeyond : s.placement.stop ≤ i :=
          Nat.le_of_not_lt fun hlt => hhead ⟨hplace.1, hlt⟩
        rw [List.getElem?_eq_none, Option.getD_none]
        rw [TemplateSlot.length_payload]
        exact Nat.le_sub_of_add_le' hbeyond
      case isFalse => rfl
    show (writeSlots w data slots (built.write s.offset.toNat (s.payload w data))).byte i = _
    rw [ih _ fun s' hs' => h s' (List.mem_cons_of_mem s hs'), hwrite]

/-- **The last payload over a byte decides it**, whatever was written there before. -/
theorem byte_writeSlots_of_last (front back : List TemplateSlot) {s : TemplateSlot}
    {built : Blob} {n : Nat} (hn : n < s.kind.room) (hroom : s.placement.stop ≤ built.size)
    (hlast : ∀ s' ∈ back, ¬ s'.placement.Covers (s.placement.place + n)) :
    (s.payload w data)[n]?
      = some ((writeSlots w data (front ++ s :: back) built).byte (s.placement.place + n)) := by
  have hsplit : writeSlots w data (front ++ s :: back) built
      = writeSlots w data back
        ((writeSlots w data front built).write s.offset.toNat (s.payload w data)) :=
    List.foldl_append
  have hinside : s.placement.place + n < built.size :=
    Nat.lt_of_lt_of_le (Nat.add_lt_add_left hn _) hroom
  have hlength : n < (s.payload w data).length := by simpa using hn
  rw [hsplit, byte_writeSlots_of_uncovered w data _ hlast, Blob.byte_write, size_writeSlots,
    if_pos ⟨Nat.le_add_right _ _, hinside⟩]
  show _ = some ((s.payload w data)[s.offset.toNat + n - s.offset.toNat]?.getD _)
  rw [Nat.add_sub_cancel_left, List.getElem?_eq_getElem hlength]
  rfl

end Template

/-- What the byte `b` with the number `n` of a payload has become: in a handle, a byte of what takes
the place of the one that the application has there; in a plain field, the application's own. -/
structure Placement.Rebuilds (w : Wrapper) (data : Blob) (p : Placement) (n : Nat) (b : UInt8) :
    Prop where
  handle : ∀ start type, (start, .handle type) ∈ DataField.places 0 p.kind.fields →
    ∀ j < 8, n = start + j →
      ∃ h real, data.Holds (p.place + start) h ∧ w.Replaces h real ∧ b = wordByte real j
  plain : ∀ start size, (start, .plain size) ∈ DataField.places 0 p.kind.fields →
    ∀ j < size, n = start + j → b = data.byte (p.place + n)

theorem TemplateSlot.rebuilds_of_getElem?_payload {w : Wrapper} {data : Blob} {s : TemplateSlot}
    {n : Nat} {b : UInt8} (hb : (s.payload w data)[n]? = some b) :
    s.placement.Rebuilds w data n b where
  handle := by
    rintro start type hfield j hj rfl
    refine ⟨_, _, data.holds_word _, w.replaces_unwrap _, ?_⟩
    rw [getElem?_payload_handle w data (SlotKind.mem_handles hfield) hj] at hb
    exact (Option.some.inj hb).symm
  plain := by
    rintro start size hfield j hj rfl
    obtain ⟨hn, hother⟩ := SlotKind.plain_apart hfield hj
    rw [getElem?_payload_other w data hn hother] at hb
    exact (Option.some.inj hb).symm

/-- **Every byte of a rebuilt blob.**  When the places of all payloads can be counted, the
layer finds the payloads where the entries of the template say, with the sizes that their fields
have.  The blob it builds is as long as the largest end of a payload, whether there is data or not.
The last payload that covers a byte decides it, from the application's blob alone: a handle becomes
the real one of its surrogate, or null if it is not known, and all else but padding stays as it is.
A byte that no payload covers is zero, and so is every byte when there is no data. -/
theorem rebuilt_blobs (t : Template) (hfits : t.Fits) (w : Wrapper) (data : Option Blob) :
    let built := (t.build w data).value
    t.slots.value.map TemplateSlot.placement = t.layout ∧
      (∀ s ∈ t.slots.value, s.kind.size.toNat = s.kind.room) ∧
      built.size = ((t.layout.map Placement.stop).max?).getD 0 ∧
      (∀ p ∈ t.layout, p.stop ≤ built.size) ∧
      (∀ i, (∀ p ∈ t.layout, ¬ p.Covers i) → built.byte i = 0) ∧
      match data with
      | none => ∀ i, built.byte i = 0
      | some data =>
        ∀ front p back n, t.layout = front ++ p :: back → n < p.kind.room →
          (∀ q ∈ back, ¬ q.Covers (p.place + n)) →
          p.Rebuilds w data n (built.byte (p.place + n)) := by
  intro built
  have hslots := Template.map_placement_slots hfits
  have hsize := Template.size_build hfits w data
  have hroom : ∀ p ∈ t.layout, p.stop ≤ built.size := by
    intro p hp
    show p.stop ≤ (t.build w data).value.size
    rw [hsize]
    exact List.le_max?_getD_of_mem (List.mem_map_of_mem hp)
  refine ⟨hslots, fun s _ => s.kind.toNat_size, hsize, hroom, ?_, ?_⟩
  · intro i huncovered
    cases data with
    | none => exact Blob.byte_zeros _ _
    | some data =>
      refine (Template.byte_writeSlots_of_uncovered w data _ fun s hs => ?_).trans
        (Blob.byte_zeros _ _)
      refine huncovered s.placement ?_
      rw [← hslots]
      exact List.mem_map_of_mem hs
  · cases data with
    | none => exact fun i => Blob.byte_zeros _ _
    | some data =>
      intro front p back n hlayout hn hlast
      -- the payloads that were found split where the described ones do
      rw [hlayout] at hslots
      obtain ⟨front', rest, hfound, -, hrest⟩ := List.map_eq_append_iff.1 hslots
      obtain ⟨s, back', rfl, rfl, rfl⟩ := List.map_eq_cons_iff.1 hrest
      have hstop : s.placement.stop ≤ (Blob.zeros (Template.extent t.slots.value).toNat).size := by
        have hmem := hroom s.placement (by simp [hlayout])
        rw [← Template.size_writeSlots w data t.slots.value]
        exact hmem
      refine TemplateSlot.rebuilds_of_getElem?_payload ?_
      show _ = some ((Template.writeSlots w data t.slots.value _).byte _)
      rw [hfound] at hstop ⊢
      exact Template.byte_writeSlots_of_last w data front' back' hn hstop fun s' hs' =>
        hlast _ (List.mem_map_of_mem hs')

/-- Two views lie over one another at an odd place, a part of a buffer follows, and a type is not
supported.  The second view is a surrogate, and gives way to the real one wherever it lies; the
buffer is not known, and becomes null. -/
theorem rebuilt_overlapping_views :
    let t : Template := ⟨.descriptorSet, [⟨0, 0, 2, .uniformTexelBuffer, 3, 4⟩,
      ⟨1, 0, 1, .other 7, 100, 0⟩, ⟨2, 0, 1, .storageBuffer, 15, 0⟩]⟩
    let w : Wrapper := ((Wrapper.new true).wrapNew 0xabcd).2
    let data : Blob := ⟨([9, 9, 9, 1, 2, 3, 4] ++ wordBytes (idAt 0) ++ wordBytes 0x7777
      ++ wordBytes 16 ++ wordBytes 32).toArray⟩
    let built := (t.build w (some data)).value
    t.Fits ∧ t.layout = [⟨3, .texelBufferView⟩, ⟨7, .texelBufferView⟩, ⟨15, .buffer⟩] ∧
      built.size = 39 ∧ built.byte 0 = 0 ∧
      (w.map.unwrap (idAt 0) = some 0xabcd ∧ built.byte 7 = 0xcd ∧ built.byte 8 = 0xab) ∧
      (w.map.unwrap 0x7777 = none ∧ data.byte 15 = 0x77 ∧ built.byte 15 = 0) ∧
      built.byte 23 = 16 := by
  intro t w data built
  have hlayout : t.layout = [⟨3, .texelBufferView⟩, ⟨7, .texelBufferView⟩, ⟨15, .buffer⟩] := by
    decide
  have hfits : t.Fits := by
    intro p hp
    rw [hlayout] at hp
    simp only [List.mem_cons, List.not_mem_nil, or_false] at hp
    rcases hp with rfl | rfl | rfl <;> decide
  have hwords : data.word 7 = idAt 0 ∧ data.word 15 = 0x7777 := by decide +kernel
  have hknown : w.map.unwrap (idAt 0) = some 0xabcd ∧ idAt 0 ≠ 0 := by decide +kernel
  have hunknown : w.map.unwrap 0x7777 = none := by decide +kernel
  have henabled : w.enabled = true := rfl
  obtain ⟨-, -, hsize, -, hzero, hlast⟩ := rebuilt_blobs t hfits w (some data)
  -- the bytes of the second view, which is the last one over them
  have hview : ∀ j < 8, built.byte (7 + j) = wordByte 0xabcd j := by
    intro j hj
    have hbyte := hlast [⟨3, .texelBufferView⟩] ⟨7, .texelBufferView⟩ [⟨15, .buffer⟩] j hlayout hj
      fun q hq hcovers => ?_
    · obtain ⟨h, real, hholds, hreal, hb⟩ := hbyte.handle 0 .bufferView (by decide) j hj
        (Nat.zero_add j).symm
      obtain rfl := (Blob.word_eq_of_holds hholds).symm.trans hwords.1
      rw [hb, (hreal.realOf henabled).eq_of_unwrap hknown.2 hknown.1]
    · rw [List.mem_singleton.1 hq] at hcovers
      have hstart : 15 ≤ 7 + j := hcovers.1
      omega
  have hbuffer := hlast [⟨3, .texelBufferView⟩, ⟨7, .texelBufferView⟩] ⟨15, .buffer⟩ []
  refine ⟨hfits, hlayout, ?_, hzero 0 ?_, ⟨hknown.1, hview 0 (by decide), hview 1 (by decide)⟩,
    ⟨hunknown, by decide +kernel, ?_⟩, ?_⟩
  · exact hsize.trans (by rw [hlayout]; decide)
  · rw [hlayout]
    decide
  · obtain ⟨h, real, hholds, hreal, hb⟩ :=
      (hbuffer 0 hlayout (by decide) (by simp)).handle 0 .buffer (by decide) 0 (by decide) rfl
    obtain rfl := (Blob.word_eq_of_holds hholds).symm.trans hwords.2
    refine hb.trans ?_
    rw [(hreal.realOf henabled).eq_zero_of_unwrap hunknown]
    rfl
  · have hplain := (hbuffer 8 hlayout (by decide) (by simp)).plain 8 8 (by decide) 0 (by decide) rfl
    exact hplain.trans (by decide +kernel)

end HandleLayer
