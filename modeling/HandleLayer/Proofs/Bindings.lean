import HandleLayer.Proofs.Ledger
import Mathlib.Data.List.Nodup

/-!
# Objects and their handles

Two runs of a program deal with the same objects under different handles: in one of them
the application has surrogates, in the other the handles of the next layer.  What ties
them together is that the surrogate of an object stands for its other handle as long as
the object may be named, and that the layer knows which objects belong to which.

## Main definitions

* `Ledger.retire`, `Ledger.record` — objects that are gone, and objects that are made.
* `Ledger.Names` — the handles of all objects that there have been.
* `Ledger.Holds` — the surrogates of those that may be named stand for the right handles.
* `Ledger.Keeps` — the layer keeps the right children for them.

## Main results

* `Ledger.Names.record`, `Ledger.Holds.record`, `Ledger.Keeps.record` — new objects with
  new surrogates.
* `Ledger.Holds.eraseMany`, `Ledger.Keeps.shrink` — objects that are gone, without theirs.
-/

namespace HandleLayer

theorem Obj.child_injective (owner : Obj) (kind : ChildKind) (call : Nat) :
    Function.Injective (Obj.child owner kind call) := fun _ _ heq => (Obj.child.inj heq).2.2.2

namespace Ledger

/-! ### Changes of the ledger -/

/-- The ledger with further objects gone. -/
def retire (gone : List Obj) (L : Ledger) : Ledger := { L with gone := L.gone ++ gone }

/-- The ledger after another call, with these objects in its output slots. -/
def record (made : List Obj) (L : Ledger) : Ledger := { L with slots := L.slots ++ [made] }

variable {L : Ledger} {made gone : List Obj} {o : Obj}

theorem next_eq (L : Ledger) (c : ProgramCall) (o : Outcome) :
    L.next c o = (L.retire (L.lost c o)).record (L.made c o) := rfl

theorem length_made (L : Ledger) (c : ProgramCall) (o : Outcome) :
    (L.made c o).length = (c.template.produced o).length := by
  unfold Ledger.made
  rw [List.length_map, List.length_range]

theorem mem_made {c : ProgramCall} {o : Outcome} {u : Obj} (hu : u ∈ L.made c o) :
    ∃ i, u = L.name c i := by
  obtain ⟨i, -, rfl⟩ := List.mem_map.1 hu
  exact ⟨i, rfl⟩

theorem notMem_made {c : ProgramCall} {o : Outcome} {u : Obj} (hu : ∀ i, L.name c i ≠ u) :
    u ∉ L.made c o := by
  intro hmem
  obtain ⟨i, heq⟩ := mem_made hmem
  exact hu i heq.symm

theorem nodup_made {c : ProgramCall} (hname : Function.Injective (L.name c)) (o : Outcome) :
    (L.made c o).Nodup := List.Nodup.map hname List.nodup_range

theorem objects_record (made : List Obj) (L : Ledger) :
    (L.record made).objects = L.objects ++ made := by
  show (L.slots ++ [made]).flatten = _
  rw [List.flatten_append, List.flatten_singleton]
  rfl

theorem size_record (made : List Obj) (L : Ledger) : (L.record made).size = L.size + 1 := by
  show (L.slots ++ [made]).length = _
  rw [List.length_append]
  rfl

theorem mem_gone_retire : o ∈ (L.retire gone).gone ↔ o ∈ L.gone ∨ o ∈ gone := List.mem_append

theorem mem_children {owner : Obj} :
    o ∈ L.children owner ↔ o ∈ L.objects ∧ Obj.isChildOf owner o = true := List.mem_filter

theorem mem_objects_iff {u : Obj} : u ∈ L.objects ↔ ∃ call index, L.at? call index = some u := by
  unfold objects at?
  rw [List.mem_flatten]
  constructor
  · rintro ⟨os, hos, hu⟩
    obtain ⟨call, hcall⟩ := List.mem_iff_getElem?.1 hos
    obtain ⟨index, hindex⟩ := List.mem_iff_getElem?.1 hu
    exact ⟨call, index, by rw [hcall]; exact hindex⟩
  · rintro ⟨call, index, hu⟩
    obtain ⟨os, hos, hu⟩ := Option.bind_eq_some_iff.1 hu
    exact ⟨os, List.mem_of_getElem? hos, List.mem_of_getElem? hu⟩

/-- An object after a call is one from before, or one of those made by it. -/
theorem at?_next {c : ProgramCall} {o : Outcome} {u : Obj} {call index : Nat}
    (hu : (L.next c o).at? call index = some u) :
    call < L.size ∧ L.at? call index = some u ∨
      call = L.size ∧ (L.made c o)[index]? = some u := by
  obtain ⟨os, hos, hu⟩ := Option.bind_eq_some_iff.1 hu
  have hos : (L.slots ++ [L.made c o])[call]? = some os := hos
  by_cases hlt : call < L.slots.length
  · rw [List.getElem?_append_left hlt] at hos
    exact .inl ⟨hlt, Option.bind_eq_some_iff.2 ⟨os, hos, hu⟩⟩
  · have hle := Nat.le_of_not_lt hlt
    rw [List.getElem?_append_right hle] at hos
    rw [List.getElem?_singleton] at hos
    split at hos
    · next hzero =>
      obtain rfl := Option.some.inj hos
      exact .inr ⟨Nat.le_antisymm (Nat.sub_eq_zero_iff_le.1 hzero) hle, hu⟩
    · cases hos

theorem eq_name_of_getElem? {c : ProgramCall} {o : Outcome} {u : Obj} {index : Nat}
    (hu : (L.made c o)[index]? = some u) : u = L.name c index := by
  rw [made, List.getElem?_map] at hu
  obtain ⟨i, hi, rfl⟩ := Option.map_eq_some_iff.1 hu
  obtain ⟨hlt, heq⟩ := List.getElem?_eq_some_iff.1 hi
  rw [List.getElem_range] at heq
  rw [heq]

theorem made_of_skipped (c : ProgramCall) {out : Outputs} :
    L.made c (.validationFailed, out) = [] := by
  unfold made
  rw [DeviceRequest.produced_of_skipped]
  rfl

/-- A command buffer is named after its output slot. -/
theorem eq_child_of_name {c : ProgramCall} {index : Nat} (h : (L.name c index).isBuffer = true) :
    ∃ owner kind, L.name c index = .child owner kind L.size index := by
  obtain ⟨template, source, out⟩ := c
  cases template with
  | allocateSets => exact ⟨_, _, rfl⟩
  | allocateCommandBuffers => exact ⟨_, _, rfl⟩
  | _ => exact absurd h Bool.false_ne_true

/-! ### Handles for further objects -/

/-- Handles for further objects: the others keep theirs. -/
structure Extends (L : Ledger) (os : List Obj) (hs : List Handle) (f f' : Obj → Handle) :
    Prop where
  null : f' .null = f .null
  old : ∀ o ∈ L.objects, f' o = f o
  new : os.map f' = hs

theorem exists_extends {os : List Obj} {hs : List Handle} (f : Obj → Handle)
    (hlength : os.length = hs.length) (hnodup : os.Nodup)
    (hnew : ∀ o ∈ os, o ∉ L.objects ∧ o ≠ .null) : ∃ f', Extends L os hs f f' := by
  induction os generalizing hs with
  | nil =>
    obtain rfl := List.length_eq_zero_iff.1 hlength.symm
    exact ⟨f, rfl, fun _ _ => rfl, rfl⟩
  | cons o os ih =>
    cases hs with
    | nil => exact absurd hlength (Nat.succ_ne_zero _)
    | cons h hs =>
      obtain ⟨hnot, hnodup⟩ := List.nodup_cons.1 hnodup
      obtain ⟨f', hf'⟩ := ih (Nat.succ.inj hlength) hnodup fun o ho =>
        hnew o (List.mem_cons_of_mem _ ho)
      obtain ⟨hobjects, hnull⟩ := hnew o List.mem_cons_self
      refine ⟨fun o' => if o' = o then h else f' o', ?_, fun o' ho' => ?_, ?_⟩
      · exact (if_neg (Ne.symm hnull)).trans hf'.null
      · exact (if_neg fun (heq : o' = o) => hobjects (heq ▸ ho')).trans (hf'.old o' ho')
      · have hrest : os.map (fun o' => if o' = o then h else f' o') = hs := by
          rw [← hf'.new]
          exact List.map_congr_left fun o' ho' => if_neg fun (heq : o' = o) => hnot (heq ▸ ho')
        rw [List.map_cons, hrest, if_pos rfl]

theorem Extends.mem {os : List Obj} {hs : List Handle} {f f' : Obj → Handle}
    (hf : Extends L os hs f f') (ho : o ∈ os) : f' o ∈ hs := by
  rw [← hf.new]
  exact List.mem_map_of_mem ho

/-- The objects `os` are new in the output slots of a call, where there may be others
besides; their surrogates `hs` stand for the handles `reals`. -/
structure Makes (L : Ledger) (made os : List Obj) (reals hs : List Handle)
    (front back front' back' : Obj → Handle) (w w' : Wrapper) : Prop where
  mints : w.Mints reals hs w'
  front : Extends L os hs front front'
  back : Extends L os reals back back'
  cases : ∀ o ∈ made, o ∈ L.objects ∨ o ∈ os
  sub : ∀ o ∈ os, o ∈ made
  new : ∀ o ∈ os, o ∉ L.objects
  wrapped : ∀ o ∈ os, o.isBuffer = false
  family : ∀ owner kind call index, .child owner kind call index ∈ os →
    owner ∈ L.objects ∧ owner.isBuffer = false
  recent : ∀ o ∈ os, o.call ≤ L.size

theorem mem_objects_record : o ∈ (L.record made).objects ↔ o ∈ L.objects ∨ o ∈ made := by
  rw [objects_record]
  exact List.mem_append

namespace Makes

variable {os : List Obj} {reals hs : List Handle} {front back front' back' : Obj → Handle}
  {w w' : Wrapper}

theorem mem_iff (hm : Makes L made os reals hs front back front' back' w w') :
    o ∈ (L.record made).objects ↔ o ∈ L.objects ∨ o ∈ os := by
  rw [mem_objects_record]
  constructor
  · rintro (ho | ho)
    · exact .inl ho
    · exact hm.cases o ho
  · rintro (ho | ho)
    · exact .inl ho
    · exact .inr (hm.sub o ho)

/-- New surrogates were never drawn before. -/
theorem not_drawn (hm : Makes L made os reals hs front back front' back' w w') (ho : o ∈ os) :
    ¬ w.map.Drawn (front' o) := hm.mints.fresh _ (hm.front.mem ho)

/-- The surrogates of new objects stand for their other handles. -/
theorem unwrap (hm : Makes L made os reals hs front back front' back' w w') (ho : o ∈ os) :
    w'.map.unwrap (front' o) = some (back' o) := by
  have hunwrap := hm.mints.unwrap
  rw [← hm.front.new, ← hm.back.new, List.map_map, List.map_map] at hunwrap
  exact List.map_inj_left.1 hunwrap o ho

end Makes

/-- The objects `made` are new command buffers, which have the handles `hs` in either
run. -/
structure Adopts (ids : Nat) (L : Ledger) (made : List Obj) (hs : List Handle)
    (front back front' back' : Obj → Handle) : Prop where
  new : ∀ o ∈ made, o ∉ L.objects
  buffers : ∀ o ∈ made, o.isBuffer = true
  nodup : hs.Nodup
  ne_zero : 0 ∉ hs
  apart : ∀ h ∈ hs, isApart ids h = true
  unused : ∀ o ∈ L.objects, o ∉ L.gone → o.isBuffer = true → front o ∉ hs
  family : ∀ owner kind call index, .child owner kind call index ∈ made →
    owner ∈ L.objects ∧ owner.isBuffer = false
  recent : ∀ o ∈ made, o.call ≤ L.size
  front : Extends L made hs front front'
  back : Extends L made hs back back'

namespace Adopts

variable {ids : Nat} {hs : List Handle} {front back front' back' : Obj → Handle}

theorem wrapped (ha : Adopts ids L made hs front back front' back')
    (ho : o ∈ (L.record made).objects) (hwrapped : o.isBuffer = false) : o ∈ L.objects := by
  rcases mem_objects_record.1 ho with ho | ho
  · exact ho
  · exact absurd (hwrapped.symm.trans (ha.buffers o ho)) Bool.false_ne_true

theorem same (ha : Adopts ids L made hs front back front' back') (ho : o ∈ made) :
    back' o = front' o :=
  (List.map_inj_left.1 (ha.front.new.trans ha.back.new.symm) o ho).symm

end Adopts

/-! ### The handles of all objects -/

/-- The handles of all objects that there have been: `front` for the application whose
handles are wrapped, `back` for the other one. -/
structure Names (fixed : Obj → List Handle) (ids : Nat) (L : Ledger) (front back : Obj → Handle)
    (w : Wrapper) : Prop where
  null_front : front .null = 0
  null_back : back .null = 0
  ne_zero : ∀ o ∈ L.objects, front o ≠ 0
  drawn : ∀ o ∈ L.objects, o.isBuffer = false → w.map.Drawn (front o)
  inj : ∀ o ∈ L.objects, ∀ o' ∈ L.objects, o.isBuffer = false → o'.isBuffer = false →
    front o = front o' → o = o'
  same : ∀ o ∈ L.objects, o.isBuffer = true → back o = front o
  apart : ∀ o ∈ L.objects, o.isBuffer = true → isApart ids (front o) = true
  family : ∀ owner kind call index, .child owner kind call index ∈ L.objects →
    owner ∈ L.objects ∧ owner.isBuffer = false
  recent : ∀ o ∈ L.objects, o.call < L.size
  image : ∀ swapchain index, .child swapchain .image 0 index ∈ L.objects →
    (fixed swapchain)[index]? = some (back (.child swapchain .image 0 index))

namespace Names

variable {fixed : Obj → List Handle} {ids : Nat} {front back front' back' : Obj → Handle}
  {w w' : Wrapper} {os : List Obj} {hs reals : List Handle}

theorem null_notMem (h : L.Names fixed ids front back w) : .null ∉ L.objects :=
  fun hmem => h.ne_zero _ hmem h.null_front

/-- The null object and the wrapped ones are told apart by their handles. -/
theorem eq_of_front (h : L.Names fixed ids front back w) {o o' : Obj}
    (ho : o ∈ L.objects) (hwrapped : o.isBuffer = false)
    (ho' : o' = .null ∨ o' ∈ L.objects ∧ o'.isBuffer = false) (heq : front o = front o') :
    o = o' := by
  rcases ho' with rfl | ⟨ho', hwrapped'⟩
  · exact absurd (heq.trans h.null_front) (h.ne_zero o ho)
  · exact h.inj o ho o' ho' hwrapped hwrapped' heq

/-- What is gone does not matter. -/
theorem retire (h : L.Names fixed ids front back w) (gone : List Obj) :
    (L.retire gone).Names fixed ids front back w :=
  ⟨h.null_front, h.null_back, h.ne_zero, h.drawn, h.inj, h.same, h.apart, h.family, h.recent,
    h.image⟩

/-- Removed surrogates were drawn all the same. -/
theorem eraseMany (h : L.Names fixed ids front back w) (gs : List Handle) :
    L.Names fixed ids front back (w.eraseMany gs) := by
  refine { h with drawn := fun o ho hwrapped => ?_ }
  obtain ⟨n, hn, heq⟩ := h.drawn o ho hwrapped
  exact ⟨n, by rw [Wrapper.drawn_eraseMany]; exact hn, heq⟩

/-- **New objects with new surrogates.** -/
theorem record (h : L.Names fixed ids front back w)
    (hm : Makes L made os reals hs front back front' back' w w')
    (himage : ∀ swapchain index, .child swapchain .image 0 index ∈ os →
      (fixed swapchain)[index]? = some (back' (.child swapchain .image 0 index))) :
    (L.record made).Names fixed ids front' back' w' := by
  have hold : ∀ o ∈ L.objects, o.isBuffer = false → w.map.Drawn (front' o) := fun o ho hfalse => by
    rw [hm.front.old o ho]
    exact h.drawn o ho hfalse
  have hbuffer : ∀ o ∈ (L.record made).objects, o.isBuffer = true → o ∈ L.objects := by
    intro o ho htrue
    rcases hm.mem_iff.1 ho with ho | ho
    · exact ho
    · exact absurd ((hm.wrapped o ho).symm.trans htrue) Bool.false_ne_true
  refine ⟨hm.front.null.trans h.null_front, hm.back.null.trans h.null_back, fun o ho => ?ne_zero,
    fun o ho hfalse => ?drawn, fun o ho o' ho' hfalse hfalse' heq => ?inj, fun o ho htrue => ?same,
    fun o ho htrue => ?apart, fun owner kind call index ho => ?family, fun o ho => ?recent,
    fun swapchain index ho => ?image⟩
  case ne_zero =>
    rcases hm.mem_iff.1 ho with ho | ho
    · rw [hm.front.old o ho]
      exact h.ne_zero o ho
    · exact hm.mints.ne_zero _ (hm.front.mem ho)
  case drawn =>
    rcases hm.mem_iff.1 ho with ho | ho
    · obtain ⟨n, hn, heq⟩ := hold o ho hfalse
      exact ⟨n, Nat.lt_of_lt_of_le hn hm.mints.drawn_le, heq⟩
    · exact hm.mints.drawn _ (hm.front.mem ho)
  case inj =>
    -- surrogates are new, so that none of them is the handle of an earlier object
    rcases hm.mem_iff.1 ho with ho | ho <;> rcases hm.mem_iff.1 ho' with ho' | ho'
    · rw [hm.front.old o ho, hm.front.old o' ho'] at heq
      exact h.inj o ho o' ho' hfalse hfalse' heq
    · exact absurd (heq ▸ hold o ho hfalse) (hm.not_drawn ho')
    · exact absurd (heq.symm ▸ hold o' ho' hfalse') (hm.not_drawn ho)
    · have hnodup : (os.map front').Nodup := by
        rw [hm.front.new]
        exact hm.mints.nodup
      exact List.inj_on_of_nodup_map hnodup ho ho' heq
  case same =>
    have ho := hbuffer o ho htrue
    rw [hm.front.old o ho, hm.back.old o ho]
    exact h.same o ho htrue
  case apart =>
    have ho := hbuffer o ho htrue
    rw [hm.front.old o ho]
    exact h.apart o ho htrue
  case family =>
    have howner : owner ∈ L.objects ∧ owner.isBuffer = false := by
      rcases hm.mem_iff.1 ho with ho | ho
      · exact h.family owner kind call index ho
      · exact hm.family owner kind call index ho
    exact ⟨hm.mem_iff.2 (.inl howner.1), howner.2⟩
  case recent =>
    rw [size_record]
    rcases hm.mem_iff.1 ho with ho | ho
    · exact Nat.lt_succ_of_lt (h.recent o ho)
    · exact Nat.lt_succ_of_le (hm.recent o ho)
  case image =>
    rcases hm.mem_iff.1 ho with ho | ho
    · rw [hm.back.old _ ho]
      exact h.image swapchain index ho
    · exact himage swapchain index ho

/-- New command buffers. -/
theorem adopt (h : L.Names fixed ids front back w)
    (ha : Adopts ids L made hs front back front' back') :
    (L.record made).Names fixed ids front' back' w := by
  refine ⟨ha.front.null.trans h.null_front, ha.back.null.trans h.null_back, fun o ho => ?ne_zero,
    fun o ho hfalse => ?drawn, fun o ho o' ho' hfalse hfalse' heq => ?inj, fun o ho htrue => ?same,
    fun o ho htrue => ?apart, fun owner kind call index ho => ?family, fun o ho => ?recent,
    fun swapchain index ho => ?image⟩
  case ne_zero =>
    rcases mem_objects_record.1 ho with ho | ho
    · rw [ha.front.old o ho]
      exact h.ne_zero o ho
    · exact fun hzero => ha.ne_zero (hzero ▸ ha.front.mem ho)
  case drawn =>
    have ho := ha.wrapped ho hfalse
    rw [ha.front.old o ho]
    exact h.drawn o ho hfalse
  case inj =>
    have ho := ha.wrapped ho hfalse
    have ho' := ha.wrapped ho' hfalse'
    rw [ha.front.old o ho, ha.front.old o' ho'] at heq
    exact h.inj o ho o' ho' hfalse hfalse' heq
  case same =>
    rcases mem_objects_record.1 ho with ho | ho
    · rw [ha.front.old o ho, ha.back.old o ho]
      exact h.same o ho htrue
    · exact ha.same ho
  case apart =>
    rcases mem_objects_record.1 ho with ho | ho
    · rw [ha.front.old o ho]
      exact h.apart o ho htrue
    · exact ha.apart _ (ha.front.mem ho)
  case family =>
    have howner : owner ∈ L.objects ∧ owner.isBuffer = false := by
      rcases mem_objects_record.1 ho with ho | ho
      · exact h.family owner kind call index ho
      · exact ha.family owner kind call index ho
    exact ⟨mem_objects_record.2 (.inl howner.1), howner.2⟩
  case recent =>
    rw [size_record]
    rcases mem_objects_record.1 ho with ho | ho
    · exact Nat.lt_succ_of_lt (h.recent o ho)
    · exact Nat.lt_succ_of_le (ha.recent o ho)
  case image =>
    have ho := ha.wrapped ho rfl
    rw [ha.back.old _ ho]
    exact h.image swapchain index ho

end Names

/-! ### The surrogates -/

/-- The surrogates of wrapped objects that may be named stand for their other handles. -/
structure Holds (ids : Nat) (L : Ledger) (front back : Obj → Handle) (w : Wrapper) : Prop where
  enabled : w.enabled = true
  drawn_le : w.map.drawn ≤ ids
  live : ∀ h, (w.map.unwrap h).isSome = true → w.map.Drawn h
  bound : ∀ o ∈ L.objects, o ∉ L.gone → o.isBuffer = false → w.map.unwrap (front o) = some (back o)

namespace Holds

variable {fixed : Obj → List Handle} {ids : Nat} {front back front' back' : Obj → Handle}
  {w w' : Wrapper} {os : List Obj} {hs reals : List Handle}

/-- A handle apart from all surrogates stays as it is. -/
theorem unwrapOrKeep_of_isApart (h : L.Holds ids front back w) {k : Handle}
    (hk : isApart ids k = true) : w.unwrapOrKeep k = k := by
  have hnone : w.map.unwrap k = none := by
    cases hunwrap : w.map.unwrap k with
    | none => rfl
    | some real =>
      obtain ⟨n, hn, heq⟩ := h.live k (by rw [hunwrap]; rfl)
      have hne := List.all_eq_true.1 hk n (List.mem_range.2 (Nat.lt_of_lt_of_le hn h.drawn_le))
      exact absurd heq.symm (bne_iff_ne.1 hne)
  unfold Wrapper.unwrapOrKeep
  rw [hnone]
  exact ite_self _

theorem unwrap_front (h : L.Holds ids front back w) (hnames : L.Names fixed ids front back w)
    (ho : o ∈ L.objects) (halive : o ∉ L.gone) (hwrapped : o.isBuffer = false) :
    w.unwrap (front o) = back o ∧ w.unwrapOrKeep (front o) = back o := by
  have hpasses : w.passes (front o) = false := by
    unfold Wrapper.passes
    rw [h.enabled]
    exact beq_false_of_ne (hnames.ne_zero o ho)
  unfold Wrapper.unwrap Wrapper.unwrapOrKeep
  rw [hpasses, h.bound o ho halive hwrapped]
  exact ⟨rfl, rfl⟩

theorem retire (h : L.Holds ids front back w) (gone : List Obj) :
    (L.retire gone).Holds ids front back w :=
  ⟨h.enabled, h.drawn_le, h.live, fun o ho halive hwrapped =>
    h.bound o ho (fun hgone => halive (mem_gone_retire.2 (.inl hgone))) hwrapped⟩

/-- Surrogates of objects that are gone are removed. -/
theorem eraseMany (h : L.Holds ids front back w) {gs : List Handle}
    (hgs : ∀ o ∈ L.objects, o ∉ L.gone → o.isBuffer = false → front o ∉ gs) :
    L.Holds ids front back (w.eraseMany gs) := by
  refine ⟨(w.enabled_eraseMany gs).trans h.enabled, ?_, fun k hk => ?_,
    fun o ho halive hwrapped => ?_⟩
  · rw [Wrapper.drawn_eraseMany]
    exact h.drawn_le
  · rw [Wrapper.unwrap_eraseMany h.enabled] at hk
    split at hk
    · exact absurd hk Bool.false_ne_true
    · obtain ⟨n, hn, heq⟩ := h.live k hk
      exact ⟨n, by rw [Wrapper.drawn_eraseMany]; exact hn, heq⟩
  · rw [Wrapper.unwrap_eraseMany h.enabled, if_neg fun hmem => hgs o ho halive hwrapped hmem.1]
    exact h.bound o ho halive hwrapped

/-- **New objects with new surrogates.** -/
theorem record (h : L.Holds ids front back w) (hnames : L.Names fixed ids front back w)
    (hm : Makes L made os reals hs front back front' back' w w')
    (hdrawn : w'.map.drawn ≤ ids) : (L.record made).Holds ids front' back' w' := by
  refine ⟨hm.mints.enabled, hdrawn, fun k hk => ?live, fun o ho halive hwrapped => ?bound⟩
  case live =>
    -- only draws bring surrogates to life
    by_cases hmem : k ∈ hs
    · exact hm.mints.drawn k hmem
    · rw [hm.mints.others k hmem] at hk
      obtain ⟨n, hn, heq⟩ := h.live k hk
      exact ⟨n, Nat.lt_of_lt_of_le hn hm.mints.drawn_le, heq⟩
  case bound =>
    rcases hm.mem_iff.1 ho with ho | ho
    · -- an earlier surrogate was drawn before, and no new one is the same
      have hother : front o ∉ hs := fun hmem =>
        hm.mints.fresh _ hmem (hnames.drawn o ho hwrapped)
      rw [hm.front.old o ho, hm.back.old o ho, hm.mints.others _ hother]
      exact h.bound o ho halive hwrapped
    · exact hm.unwrap ho

/-- New command buffers. -/
theorem adopt (h : L.Holds ids front back w)
    (ha : Adopts ids L made hs front back front' back') :
    (L.record made).Holds ids front' back' w := by
  refine ⟨h.enabled, h.drawn_le, h.live, fun o ho halive hwrapped => ?_⟩
  -- a wrapped object is none of the new command buffers
  have ho := ha.wrapped ho hwrapped
  rw [ha.front.old o ho, ha.back.old o ho]
  exact h.bound o ho halive hwrapped

end Holds

/-! ### Children -/

/-- The first `n` images of a swapchain. -/
def firstImages (swapchain : Obj) (n : Nat) : List Obj :=
  (List.range n).map (.child swapchain .image 0)

/-- The `k` images of a swapchain that follow the first `n`. -/
def nextImages (swapchain : Obj) (n k : Nat) : List Obj :=
  (List.range k).map fun j => .child swapchain .image 0 (n + j)

theorem length_firstImages (swapchain : Obj) (n : Nat) : (firstImages swapchain n).length = n := by
  unfold firstImages
  rw [List.length_map, List.length_range]

theorem firstImages_add (swapchain : Obj) (n k : Nat) :
    firstImages swapchain (n + k) = firstImages swapchain n ++ nextImages swapchain n k := by
  unfold firstImages nextImages
  rw [List.range_add, List.map_append, List.map_map]
  rfl

theorem mem_firstImages {swapchain : Obj} {n i : Nat} :
    .child swapchain .image 0 i ∈ firstImages swapchain n ↔ i < n := by
  unfold firstImages
  rw [List.mem_map]
  constructor
  · rintro ⟨j, hj, heq⟩
    obtain rfl := (Obj.child.inj heq).2.2.2
    exact List.mem_range.1 hj
  · exact fun hi => ⟨i, List.mem_range.2 hi, rfl⟩

theorem mem_nextImages {swapchain swapchain' : Obj} {n k i : Nat} :
    .child swapchain' .image 0 i ∈ nextImages swapchain n k
      ↔ swapchain' = swapchain ∧ n ≤ i ∧ i < n + k := by
  unfold nextImages
  rw [List.mem_map]
  constructor
  · rintro ⟨j, hj, heq⟩
    obtain ⟨rfl, -, -, rfl⟩ := Obj.child.inj heq
    have hlt := List.mem_range.1 hj
    exact ⟨rfl, by omega, by omega⟩
  · rintro ⟨rfl, hle, hlt⟩
    exact ⟨i - n, List.mem_range.2 (by omega), by rw [Nat.add_sub_cancel' hle]⟩

theorem isChildOf_of_mem_nextImages {swapchain : Obj} {n k : Nat}
    (ho : o ∈ nextImages swapchain n k) : Obj.isChildOf swapchain o = true := by
  obtain ⟨j, -, rfl⟩ := List.mem_map.1 ho
  exact beq_self_eq_true swapchain

theorem getElem?_firstImages {swapchain : Obj} {n i : Nat} (hi : i < n) :
    (firstImages swapchain n)[i]? = some (.child swapchain .image 0 i) := by
  unfold firstImages
  rw [List.getElem?_map, List.getElem?_range hi]
  rfl

/-- The images of a swapchain that were reported so far are the first ones of it, in
order. -/
def HasImages (L : Ledger) (front : Obj → Handle) (swapchain : Obj) (images : List Handle) :
    Prop :=
  images = (firstImages swapchain images.length).map front ∧
    ∀ i, .child swapchain .image 0 i ∈ L.objects ↔ i < images.length

/-- Other objects do not matter. -/
theorem HasImages.of_extends {os : List Obj} {hs images : List Handle} {front front' : Obj → Handle}
    {swapchain : Obj} (h : L.HasImages front swapchain images)
    (hfront : Extends L os hs front front')
    (hsame : ∀ i, .child swapchain .image 0 i ∈ (L.record made).objects
      ↔ .child swapchain .image 0 i ∈ L.objects) :
    (L.record made).HasImages front' swapchain images := by
  refine ⟨h.1.trans (List.map_congr_left fun o ho => ?_), fun i => (hsame i).trans (h.2 i)⟩
  obtain ⟨i, hi, rfl⟩ := List.mem_map.1 ho
  exact (hfront.old _ ((h.2 i).2 (List.mem_range.1 hi))).symm

/-- The layer keeps the children of objects as far as it has to. -/
structure Keeps (L : Ledger) (front : Obj → Handle) (t : Tracked) : Prop where
  owned : ∀ p h, h ∈ t.setsOf p ∨ h ∈ t.imagesOf p → ∃ owner ∈ L.objects,
    owner.isBuffer = false ∧ front owner = p ∧
      ∃ o ∈ L.children owner, o.isBuffer = false ∧ front o = h
  images : ∀ swapchain ∈ L.objects, swapchain ∉ L.gone → swapchain.isBuffer = false →
    L.HasImages front swapchain (t.imagesOf (front swapchain))
  secondary : ∀ pool call index, .child pool .secondary call index ∈ L.objects →
    .child pool .secondary call index ∉ L.gone →
      t.secondaries.get? (front (.child pool .secondary call index)) = some (front pool)
  distinct : ∀ o ∈ L.objects, ∀ o' ∈ L.objects, o ∉ L.gone → o' ∉ L.gone →
    o.isBuffer = true → o'.isBuffer = true → front o = front o' → o = o'

namespace Keeps

variable {fixed : Obj → List Handle} {ids : Nat} {front back front' back' : Obj → Handle}
  {w w' : Wrapper} {t t' : Tracked} {os : List Obj} {hs reals : List Handle}

/-- What is kept under the handle of an object are its children. -/
theorem mem_children (h : L.Keeps front t) (hnames : L.Names fixed ids front back w)
    (ho : o = .null ∨ o ∈ L.objects ∧ o.isBuffer = false) {k : Handle}
    (hk : k ∈ t.setsOf (front o) ∨ k ∈ t.imagesOf (front o)) :
    ∃ o' ∈ L.children o, o'.isBuffer = false ∧ front o' = k := by
  obtain ⟨owner, howner, hwrapped, heq, hchild⟩ := h.owned _ k hk
  obtain rfl := hnames.eq_of_front howner hwrapped ho heq
  exact hchild

/-- No pool is one of its own sets. -/
theorem notMem_setsOf (h : L.Keeps front t) (hnames : L.Names fixed ids front back w)
    (p : Handle) : p ∉ t.setsOf p := by
  intro hp
  obtain ⟨owner, howner, hwrapped, rfl, o, ho, hwrapped', heq⟩ := h.owned p p (.inl hp)
  obtain ⟨hmem, hchild⟩ := Ledger.mem_children.1 ho
  obtain rfl := hnames.inj o hmem owner howner hwrapped' hwrapped heq
  -- an object that belongs to itself would be larger than itself
  cases o with
  | child owner kind call index =>
    have heq : owner = .child owner kind call index := eq_of_beq hchild
    have hsize := congrArg sizeOf heq
    simp only [Obj.child.sizeOf_spec] at hsize
    omega
  | _ => exact absurd hchild Bool.false_ne_true

theorem retire (h : L.Keeps front t) (gone : List Obj) : (L.retire gone).Keeps front t := by
  have halive : ∀ {o}, o ∉ (L.retire gone).gone → o ∉ L.gone :=
    fun hnot hgone => hnot (mem_gone_retire.2 (.inl hgone))
  exact ⟨h.owned, fun swapchain hs hnot => h.images swapchain hs (halive hnot),
    fun pool call index hb hnot => h.secondary pool call index hb (halive hnot),
    fun o ho o' ho' hnot hnot' => h.distinct o ho o' ho' (halive hnot) (halive hnot')⟩

/-- Less is kept, but nothing less of objects that may be named. -/
theorem shrink (h : L.Keeps front t)
    (howned : ∀ p k, k ∈ t'.setsOf p ∨ k ∈ t'.imagesOf p → k ∈ t.setsOf p ∨ k ∈ t.imagesOf p)
    (himages : ∀ swapchain ∈ L.objects, swapchain ∉ L.gone → swapchain.isBuffer = false →
      t'.imagesOf (front swapchain) = t.imagesOf (front swapchain))
    (hsecondary : ∀ pool call index, .child pool .secondary call index ∈ L.objects →
      .child pool .secondary call index ∉ L.gone →
        t'.secondaries.get? (front (.child pool .secondary call index))
          = t.secondaries.get? (front (.child pool .secondary call index))) :
    L.Keeps front t' := by
  refine ⟨fun p k hk => h.owned p k (howned p k hk), fun swapchain hs hnot hwrapped => ?_,
    fun pool call index hb hnot => ?_, h.distinct⟩
  · rw [himages swapchain hs hnot hwrapped]
    exact h.images swapchain hs hnot hwrapped
  · rw [hsecondary pool call index hb hnot]
    exact h.secondary pool call index hb hnot

/-- **New objects with new surrogates.** -/
theorem record (h : L.Keeps front t) (hnames : L.Names fixed ids front back w)
    (hm : Makes L made os reals hs front back front' back' w w')
    (howned : ∀ p k, k ∈ t'.setsOf p ∨ k ∈ t'.imagesOf p →
      (k ∈ t.setsOf p ∨ k ∈ t.imagesOf p) ∨ ∃ owner ∈ L.objects, owner.isBuffer = false ∧
        front owner = p ∧ ∃ o ∈ os, Obj.isChildOf owner o = true ∧ front' o = k)
    (himages : ∀ swapchain ∈ L.objects, swapchain ∉ L.gone → swapchain.isBuffer = false →
      (L.record made).HasImages front' swapchain (t'.imagesOf (front swapchain)))
    (hsecondaries : t'.secondaries = t.secondaries) : (L.record made).Keeps front' t' := by
  -- what is kept was kept before, or it is one of the new objects
  have howned' : ∀ p k, k ∈ t'.setsOf p ∨ k ∈ t'.imagesOf p → ∃ owner ∈ L.objects,
      owner.isBuffer = false ∧ front owner = p ∧
        ∃ o ∈ (L.record made).children owner, o.isBuffer = false ∧ front' o = k := by
    intro p k hk
    rcases howned p k hk with hk | ⟨owner, howner, hwrapped, hp, o, ho, hchild, heq⟩
    · obtain ⟨owner, howner, hwrapped, hp, o, ho, hwrapped', heq⟩ := h.owned p k hk
      obtain ⟨hmem, hchild⟩ := Ledger.mem_children.1 ho
      exact ⟨owner, howner, hwrapped, hp, o,
        Ledger.mem_children.2 ⟨hm.mem_iff.2 (.inl hmem), hchild⟩, hwrapped',
        (hm.front.old o hmem).trans heq⟩
    · exact ⟨owner, howner, hwrapped, hp, o,
        Ledger.mem_children.2 ⟨hm.mem_iff.2 (.inr ho), hchild⟩, hm.wrapped o ho, heq⟩
  have hbuffer : ∀ o ∈ (L.record made).objects, o.isBuffer = true → o ∈ L.objects := by
    intro o ho htrue
    rcases hm.mem_iff.1 ho with ho | ho
    · exact ho
    · exact absurd ((hm.wrapped o ho).symm.trans htrue) Bool.false_ne_true
  refine ⟨fun p k hk => ?owned, fun swapchain hs hnot hwrapped => ?images,
    fun pool call index hb hnot => ?secondary,
    fun o ho o' ho' hnot hnot' htrue htrue' heq => ?distinct⟩
  case owned =>
    obtain ⟨owner, howner, hwrapped, hp, hchild⟩ := howned' p k hk
    exact ⟨owner, hm.mem_iff.2 (.inl howner), hwrapped, (hm.front.old owner howner).trans hp,
      hchild⟩
  case images =>
    rcases hm.mem_iff.1 hs with hs | hs
    · rw [hm.front.old _ hs]
      exact himages swapchain hs hnot hwrapped
    · -- nothing is kept under a new surrogate, and a new object has no children
      have hnone : t'.imagesOf (front' swapchain) = [] := by
        refine List.eq_nil_iff_forall_not_mem.2 fun k hk => ?_
        obtain ⟨owner, howner, hwrapped', hp, -⟩ := howned' _ k (.inr hk)
        exact hm.not_drawn hs (hp ▸ hnames.drawn owner howner hwrapped')
      rw [hnone]
      refine ⟨rfl, fun i => ⟨fun hmem => ?_, fun hlt => absurd hlt (Nat.not_lt_zero i)⟩⟩
      have howner : swapchain ∈ L.objects := by
        rcases hm.mem_iff.1 hmem with hmem | hmem
        · exact (hnames.family _ _ _ _ hmem).1
        · exact (hm.family _ _ _ _ hmem).1
      exact absurd howner (hm.new _ hs)
  case secondary =>
    have hb := hbuffer _ hb rfl
    rw [hm.front.old _ hb, hm.front.old _ (hnames.family _ _ _ _ hb).1, hsecondaries]
    exact h.secondary pool call index hb hnot
  case distinct =>
    have ho := hbuffer o ho htrue
    have ho' := hbuffer o' ho' htrue'
    rw [hm.front.old o ho, hm.front.old o' ho'] at heq
    exact h.distinct o ho o' ho' hnot hnot' htrue htrue' heq

/-- New command buffers, of which the secondary ones are kept. -/
theorem adopt (h : L.Keeps front t) (hnames : L.Names fixed ids front back w)
    (ha : Adopts ids L made hs front back front' back')
    (hsets : t'.poolSets = t.poolSets) (himages : t'.swapchainImages = t.swapchainImages)
    (hothers : ∀ k, k ∉ hs → t'.secondaries.get? k = t.secondaries.get? k)
    (hsecondary : ∀ pool call index, .child pool .secondary call index ∈ made →
      ∀ k ∈ hs, t'.secondaries.get? k = some (front pool)) :
    (L.record made).Keeps front' t' := by
  have hsetsOf : ∀ p, t'.setsOf p = t.setsOf p := fun p => by
    unfold Tracked.setsOf
    rw [hsets]
  have himagesOf : ∀ p, t'.imagesOf p = t.imagesOf p := fun p => by
    unfold Tracked.imagesOf
    rw [himages]
  refine ⟨fun p k hk => ?owned, fun swapchain hs hnot hwrapped => ?images,
    fun pool call index hb hnot => ?secondary,
    fun o ho o' ho' hnot hnot' htrue htrue' heq => ?distinct⟩
  case owned =>
    rw [hsetsOf, himagesOf] at hk
    obtain ⟨owner, howner, hwrapped, hp, o, ho, hwrapped', heq⟩ := h.owned p k hk
    obtain ⟨hmem, hchild⟩ := Ledger.mem_children.1 ho
    exact ⟨owner, mem_objects_record.2 (.inl howner), hwrapped,
      (ha.front.old owner howner).trans hp, o,
      Ledger.mem_children.2 ⟨mem_objects_record.2 (.inl hmem), hchild⟩, hwrapped',
      (ha.front.old o hmem).trans heq⟩
  case images =>
    have hs := ha.wrapped hs hwrapped
    rw [himagesOf, ha.front.old swapchain hs]
    exact (h.images swapchain hs hnot hwrapped).of_extends ha.front fun i =>
      ⟨fun hi => ha.wrapped hi rfl, fun hi => mem_objects_record.2 (.inl hi)⟩
  case secondary =>
    rcases mem_objects_record.1 hb with hb | hb
    · rw [ha.front.old _ hb, ha.front.old _ (hnames.family _ _ _ _ hb).1,
        hothers _ (ha.unused _ hb hnot rfl)]
      exact h.secondary pool call index hb hnot
    · rw [ha.front.old _ (ha.family _ _ _ _ hb).1]
      exact hsecondary pool call index hb _ (ha.front.mem hb)
  case distinct =>
    -- the next layer gives no handle to a command buffer that another one still has
    rcases mem_objects_record.1 ho with ho | ho <;> rcases mem_objects_record.1 ho' with ho' | ho'
    · rw [ha.front.old o ho, ha.front.old o' ho'] at heq
      exact h.distinct o ho o' ho' hnot hnot' htrue htrue' heq
    · rw [ha.front.old o ho] at heq
      exact absurd (heq ▸ ha.front.mem ho') (ha.unused o ho hnot htrue)
    · rw [ha.front.old o' ho'] at heq
      exact absurd (heq ▸ ha.front.mem ho) (ha.unused o' ho' hnot' htrue')
    · have hnodup : (made.map front').Nodup := by
        rw [ha.front.new]
        exact ha.nodup
      exact List.inj_on_of_nodup_map hnodup ho ho' heq

end Keeps

end Ledger

end HandleLayer
