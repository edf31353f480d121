import HandleLayer.Proofs.Aftermath
import HandleLayer.Proofs.Bindings

/-!
# Objects and their handles, call by call

What comes of an answer keeps the surrogates and the children in step with the objects of
the application, for each kind of request in its own way.

## Main definitions

* `Ledger.Fits` — the surrogates and the children are in step with the objects.
* `Ledger.Follows` — they are in step with them again after a call, and the new objects
  have their handles in the output slots.

## Main results

* `Ledger.Fits.destroy`, `Ledger.Fits.freeSets` and their like — objects are done away with.
* `Ledger.Fits.create`, `Ledger.Fits.images` and their like — objects are made.
* `Ledger.follows` — **whatever comes of an answer, everything stays in step.**
-/

namespace HandleLayer

namespace Ledger

/-- The surrogates and the children that are kept are in step with the objects. -/
structure Fits (fixed : Obj → List Handle) (ids : Nat) (L : Ledger) (front back : Obj → Handle)
    (w : Wrapper) (t : Tracked) : Prop where
  names : L.Names fixed ids front back w
  holds : L.Holds ids front back w
  keeps : L.Keeps front t

/-- There are no objects, no surrogates and no children. -/
theorem fits_empty (fixed : Obj → List Handle) (ids : Nat) :
    Ledger.empty.Fits fixed ids (fun _ => 0) (fun _ => 0) (.new true) .empty := by
  have hnone : ∀ u, u ∉ Ledger.empty.objects := fun u => List.not_mem_nil
  have hnames : Ledger.empty.Names fixed ids (fun _ => 0) (fun _ => 0) (.new true) :=
    ⟨rfl, rfl, fun u hu => absurd hu (hnone u), fun u hu => absurd hu (hnone u),
      fun u hu => absurd hu (hnone u), fun u hu => absurd hu (hnone u),
      fun u hu => absurd hu (hnone u), fun _ _ _ _ hu => absurd hu (hnone _),
      fun u hu => absurd hu (hnone u), fun _ _ hu => absurd hu (hnone _)⟩
  have hholds : Ledger.empty.Holds ids (fun _ => 0) (fun _ => 0) (.new true) :=
    ⟨rfl, Nat.zero_le _, fun _ hlive => absurd hlive Bool.false_ne_true,
      fun u hu => absurd hu (hnone u)⟩
  have hkeeps : Ledger.empty.Keeps (fun _ => 0) .empty := by
    refine ⟨fun pool k hk => ?_, fun u hu => absurd hu (hnone u),
      fun _ _ _ hu => absurd hu (hnone _), fun u hu => absurd hu (hnone u)⟩
    rcases hk with hk | hk
    · exact absurd hk Std.ExtTreeSet.not_mem_empty
    · exact absurd hk List.not_mem_nil
  exact ⟨hnames, hholds, hkeeps⟩

namespace Fits

variable {fixed : Obj → List Handle} {ids : Nat} {L : Ledger} {front back : Obj → Handle}
  {w : Wrapper} {t t' : Tracked} {P : Obj}

theorem retire (h : L.Fits fixed ids front back w t) (gone : List Obj) :
    (L.retire gone).Fits fixed ids front back w t :=
  ⟨h.names.retire gone, h.holds.retire gone, h.keeps.retire gone⟩

/-- A call that makes nothing. -/
theorem rest (h : L.Fits fixed ids front back w t) :
    (L.record []).Fits fixed ids front back w t := by
  have hnone : Extends L [] [] front front := ⟨rfl, fun _ _ => rfl, rfl⟩
  have hnone' : Extends L [] [] back back := ⟨rfl, fun _ _ => rfl, rfl⟩
  have ha : Adopts ids L [] [] front back front back :=
    ⟨by simp, by simp, .nil, by simp, by simp, by simp, by simp, by simp, hnone, hnone'⟩
  exact ⟨h.names.adopt ha, h.holds.adopt ha,
    h.keeps.adopt h.names ha rfl rfl (fun _ _ => rfl) (by simp)⟩

/-- What else is kept does not matter. -/
theorem congr (h : L.Fits fixed ids front back w t) (hmatches : t.Matches t') :
    L.Fits fixed ids front back w t' := by
  refine ⟨h.names, h.holds, h.keeps.shrink (fun p k hk => ?_) (fun _ _ _ _ => ?_)
    fun _ _ _ _ _ => by rw [hmatches.secondaries]⟩
  · rw [hmatches.setsOf, hmatches.imagesOf] at hk
    exact hk
  · rw [hmatches.imagesOf]

/-! ### Requests that do away with objects -/

/-- What stands for a name: the null object, or a wrapped one. -/
def IsWrapped (L : Ledger) (o : Obj) : Prop := o = .null ∨ o ∈ L.objects ∧ o.isBuffer = false

/-- Other objects have other handles. -/
theorem front_ne (h : L.Fits fixed ids front back w t) (hP : IsWrapped L P) {o : Obj}
    (ho : o ∈ L.objects) (hwrapped : o.isBuffer = false) (hne : o ≠ P) : front o ≠ front P :=
  fun heq => hne (h.names.eq_of_front ho hwrapped hP heq)

/-- Objects that do not belong to an owner have handles that are not kept for it. -/
theorem front_ne_child (h : L.Fits fixed ids front back w t) (hP : IsWrapped L P) {o : Obj}
    (ho : o ∈ L.objects) (hwrapped : o.isBuffer = false) (hchild : o ∉ L.children P) :
    front o ∉ t.setsOf (front P) ∧ front o ∉ t.imagesOf (front P) := by
  have hnot : ¬ (front o ∈ t.setsOf (front P) ∨ front o ∈ t.imagesOf (front P)) := by
    intro hk
    obtain ⟨o', ho', hwrapped', heq⟩ := h.keeps.mem_children h.names hP hk
    obtain rfl := h.names.inj o' (Ledger.mem_children.1 ho').1 o ho hwrapped' hwrapped heq
    exact hchild ho'
  exact not_or.1 hnot

/-- An object is destroyed, and its children with it. -/
theorem destroy (h : L.Fits fixed ids front back w t) (hP : IsWrapped L P)
    (hgone : ∀ o ∈ L.objects, o ∉ L.gone → o ≠ P ∧ o ∉ L.children P) (kind : Destroyable)
    (o : Outcome) :
    L.Fits fixed ids front back
      (w.eraseMany ((DeviceRequest.destroy kind (front P)).removed t o))
      (t.after [] o (.destroy kind (front P))) := by
  have hself : ∀ o ∈ L.objects, o ∉ L.gone → o.isBuffer = false → front o ≠ front P :=
    fun o ho hnot hwrapped => h.front_ne hP ho hwrapped (hgone o ho hnot).1
  have hchildren := fun o ho hnot hwrapped =>
    h.front_ne_child (o := o) hP ho hwrapped (hgone o ho hnot).2
  have hone : L.Fits fixed ids front back (w.eraseMany [front P]) t :=
    ⟨h.names.eraseMany _, h.holds.eraseMany fun o ho hnot hwrapped hmem =>
      hself o ho hnot hwrapped (List.mem_singleton.1 hmem), h.keeps⟩
  -- a pool and a swapchain take what is kept under them along, and nothing else does
  cases kind with
  | descriptorPool =>
    refine ⟨h.names.eraseMany _, h.holds.eraseMany fun o ho hnot hwrapped hmem => ?_,
      h.keeps.shrink (fun p k hk => ?_) (fun _ _ _ _ => rfl) fun _ _ _ _ _ => rfl⟩
    · rcases List.mem_append.1 hmem with hmem | hmem
      · exact (hchildren o ho hnot hwrapped).1 (Std.ExtTreeSet.mem_toList.1 hmem)
      · exact hself o ho hnot hwrapped (List.mem_singleton.1 hmem)
    · refine hk.imp_left fun hk => ?_
      have hk : k ∈ (t.forgetPool (front P)).setsOf p := hk
      rw [Tracked.setsOf_forgetPool] at hk
      split at hk
      · exact absurd hk Std.ExtTreeSet.not_mem_empty
      · exact hk
  | swapchain =>
    refine ⟨h.names.eraseMany _, h.holds.eraseMany fun o ho hnot hwrapped hmem => ?_,
      h.keeps.shrink (fun p k hk => ?_) (fun o ho hnot hwrapped => ?_) fun _ _ _ _ _ => rfl⟩
    · rcases List.mem_cons.1 hmem with heq | hmem
      · exact hself o ho hnot hwrapped heq
      · exact (hchildren o ho hnot hwrapped).2 hmem
    · refine hk.imp_right fun hk => ?_
      have hk : k ∈ (t.forgetSwapchain (front P)).imagesOf p := hk
      rw [Tracked.imagesOf_forgetSwapchain] at hk
      split at hk
      · exact absurd hk List.not_mem_nil
      · exact hk
    · have hsame := t.imagesOf_forgetSwapchain (front P) (front o)
      rw [if_neg (Ne.symm (hself o ho hnot hwrapped))] at hsame
      exact hsame
  | _ => exact hone

/-- A command pool is about to be destroyed; its secondary command buffers are not kept
any more. -/
theorem spare (h : L.Fits fixed ids front back w t) (hP : IsWrapped L P)
    (hgone : ∀ o ∈ L.objects, o ∉ L.gone → o ∉ L.children P) :
    L.Fits fixed ids front back w (t.forgetCommandPool (front P)) := by
  refine ⟨h.names, h.holds, h.keeps.shrink (fun _ _ hk => hk) (fun _ _ _ _ => rfl)
    fun pool call index hb hnot => ?_⟩
  have hkept := h.keeps.secondary pool call index hb hnot
  obtain ⟨hpool, hwrapped⟩ := h.names.family _ _ _ _ hb
  -- a command buffer that may still be named belongs to another pool
  have hother : pool ≠ P := by
    rintro rfl
    exact hgone _ hb hnot (mem_children.2 ⟨hb, beq_self_eq_true pool⟩)
  have hfilter : (t.forgetCommandPool (front P)).secondaries.get?
      (front (.child pool .secondary call index))
        = if decide (front pool ≠ front P) then some (front pool) else none := by
    show (t.secondaries.filter fun _ p => p ≠ front P).get? _ = _
    rw [Table.get?_filter, hkept]
    rfl
  rw [hfilter, hkept, if_pos (decide_eq_true (h.front_ne hP hpool hwrapped hother))]

/-- An object is released, without children. -/
theorem release (h : L.Fits fixed ids front back w t) (hP : IsWrapped L P)
    (hgone : ∀ o ∈ L.objects, o ∉ L.gone → o ≠ P) :
    L.Fits fixed ids front back (w.eraseMany [front P]) t :=
  ⟨h.names.eraseMany _, h.holds.eraseMany fun o ho hnot hwrapped hmem =>
    h.front_ne hP ho hwrapped (hgone o ho hnot) (List.mem_singleton.1 hmem), h.keeps⟩

/-- A pool is reset, and its sets are gone. -/
theorem reset (h : L.Fits fixed ids front back w t) (hP : IsWrapped L P)
    (hgone : ∀ o ∈ L.objects, o ∉ L.gone → o ∉ L.children P) :
    L.Fits fixed ids front back (w.eraseMany (t.setsOf (front P)).toList)
      (t.clearSets (front P)) := by
  refine ⟨h.names.eraseMany _, h.holds.eraseMany fun o ho hnot hwrapped hmem => ?_,
    h.keeps.shrink (fun p k hk => ?_) (fun _ _ _ _ => rfl) fun _ _ _ _ _ => rfl⟩
  · exact (h.front_ne_child hP ho hwrapped (hgone o ho hnot)).1 (Std.ExtTreeSet.mem_toList.1 hmem)
  · refine hk.imp_left fun hk => ?_
    rw [Tracked.setsOf_clearSets] at hk
    split at hk
    · exact absurd hk Std.ExtTreeSet.not_mem_empty
    · exact hk

/-- Sets are freed. -/
theorem freeSets (h : L.Fits fixed ids front back w t) {sets : List Obj}
    (hsets : ∀ o ∈ sets, IsWrapped L o) (hgone : ∀ o ∈ L.objects, o ∉ L.gone → o ∉ sets)
    (pool : Handle) :
    L.Fits fixed ids front back (w.eraseMany (sets.map front))
      (t.removeSets pool (sets.map front)) := by
  refine ⟨h.names.eraseMany _, h.holds.eraseMany fun o ho hnot hwrapped hmem => ?_,
    h.keeps.shrink (fun p k hk => ?_) (fun _ _ _ _ => rfl) fun _ _ _ _ _ => rfl⟩
  · obtain ⟨o', ho', heq⟩ := List.mem_map.1 hmem
    refine h.front_ne (hsets o' ho') ho hwrapped ?_ heq.symm
    rintro rfl
    exact hgone o ho hnot ho'
  · refine hk.imp_left fun hk => ?_
    exact ((Tracked.mem_setsOf_removeSets t pool p k _).1 hk).1

/-- Command buffers are freed. -/
theorem freeBuffers (h : L.Fits fixed ids front back w t) {buffers : List Handle}
    (hgone : ∀ o ∈ L.objects, o ∉ L.gone → o.isBuffer = true → front o ∉ buffers) :
    L.Fits fixed ids front back w (t.removeSecondaries buffers) := by
  refine ⟨h.names, h.holds, h.keeps.shrink (fun _ _ hk => hk) (fun _ _ _ _ => rfl)
    fun pool call index hb hnot => ?_⟩
  rw [Tracked.get?_removeSecondaries, if_neg (hgone _ hb hnot rfl)]

/-! ### Requests that make objects -/

variable {made os : List Obj} {reals hs : List Handle}
  {front' back' : Obj → Handle} {w' : Wrapper}

/-- New objects that are not images, and the sets among them. -/
theorem record (h : L.Fits fixed ids front back w t)
    (hm : Makes L made os reals hs front back front' back' w w') (hdrawn : w'.map.drawn ≤ ids)
    (himage : ∀ swapchain i, .child swapchain .image 0 i ∉ os)
    (hsets : ∀ p k, k ∈ t'.setsOf p → k ∈ t.setsOf p ∨ ∃ owner ∈ L.objects,
      owner.isBuffer = false ∧ front owner = p ∧
        ∃ o ∈ os, Obj.isChildOf owner o = true ∧ front' o = k)
    (himages : t'.swapchainImages = t.swapchainImages)
    (hsecondaries : t'.secondaries = t.secondaries) :
    (L.record made).Fits fixed ids front' back' w' t' := by
  have himagesOf : ∀ p, t'.imagesOf p = t.imagesOf p := fun p => by
    unfold Tracked.imagesOf
    rw [himages]
  refine ⟨h.names.record hm fun swapchain i hi => absurd hi (himage swapchain i),
    h.holds.record h.names hm hdrawn,
    h.keeps.record h.names hm (fun p k hk => ?_) (fun swapchain hs hnot hwrapped => ?_)
      hsecondaries⟩
  · rw [himagesOf] at hk
    rcases hk with hk | hk
    · exact (hsets p k hk).imp_left .inl
    · exact .inl (.inr hk)
  · rw [himagesOf]
    exact (h.keeps.images swapchain hs hnot hwrapped).of_extends hm.front fun i => by
      rw [hm.mem_iff]
      exact or_iff_left (himage swapchain i)

/-- An object without children is created. -/
theorem create (h : L.Fits fixed ids front back w t)
    (hm : Makes L made os reals hs front back front' back' w w') (hdrawn : w'.map.drawn ≤ ids)
    (himage : ∀ swapchain i, .child swapchain .image 0 i ∉ os) :
    (L.record made).Fits fixed ids front' back' w' t :=
  h.record hm hdrawn himage (fun _ _ hk => .inl hk) rfl rfl

/-- Sets are allocated from a pool. -/
theorem allocateSets (h : L.Fits fixed ids front back w t)
    (hm : Makes L made os reals hs front back front' back' w w') (hdrawn : w'.map.drawn ≤ ids)
    (himage : ∀ swapchain i, .child swapchain .image 0 i ∉ os) (hP : P ∈ L.objects)
    (hwrapped : P.isBuffer = false) (hos : ∀ o ∈ os, Obj.isChildOf P o = true) :
    (L.record made).Fits fixed ids front' back' w' (t.addSets (front P) hs) := by
  refine h.record hm hdrawn himage (fun p k hk => ?_) rfl rfl
  rw [Tracked.setsOf_addSets] at hk
  split at hk
  · next hp =>
    subst hp
    rcases Std.ExtTreeSet.mem_insertMany_list.1 hk with hold | hnew
    · exact .inl hold
    · have hmem := List.contains_iff_mem.1 hnew
      rw [← hm.front.new] at hmem
      obtain ⟨o, ho, heq⟩ := List.mem_map.1 hmem
      exact .inr ⟨P, hP, hwrapped, rfl, o, ho, hos o ho, heq⟩
  · exact .inl hk

/-- Command buffers are allocated. -/
theorem allocateBuffers (h : L.Fits fixed ids front back w t)
    (ha : Adopts ids L made hs front back front' back') (level : BufferLevel)
    (hos : ∀ pool call index, .child pool .secondary call index ∈ made →
      pool = P ∧ level = .secondary) :
    (L.record made).Fits fixed ids front' back' w
      (if level = .secondary then t.addSecondaries (front P) hs else t) := by
  refine ⟨h.names.adopt ha, h.holds.adopt ha, ?_⟩
  split
  · refine h.keeps.adopt h.names ha rfl rfl (fun k hk => ?_) fun pool call index hb k hk => ?_
    · rw [Tracked.get?_addSecondaries, if_neg hk]
    · rw [Tracked.get?_addSecondaries, if_pos hk, (hos pool call index hb).1]
  · next hlevel =>
    refine h.keeps.adopt h.names ha rfl rfl (fun _ _ => rfl) fun pool call index hb => ?_
    exact absurd (hos pool call index hb).2 hlevel

section Images

variable {n k : Nat} {produced : List Handle}

/-- The images that are known and the new ones, in the order of their numbers. -/
theorem known_append (h : L.Fits fixed ids front back w t) (hP : P ∈ L.objects) (hnot : P ∉ L.gone)
    (hwrapped : P.isBuffer = false) (hn : (t.imagesOf (front P)).length = n)
    (hm : Makes L (firstImages P produced.length) (nextImages P n k) (produced.drop n) hs front
      back front' back' w w') :
    t.imagesOf (front P) ++ hs = (firstImages P (n + k)).map front' := by
  obtain ⟨hknown, hmem⟩ := h.keeps.images P hP hnot hwrapped
  rw [hn] at hknown hmem
  have hold : (firstImages P n).map front' = t.imagesOf (front P) := by
    refine Eq.trans (List.map_congr_left fun o ho => ?_) hknown.symm
    obtain ⟨i, hi, rfl⟩ := List.mem_map.1 ho
    exact hm.front.old _ ((hmem i).2 (List.mem_range.1 hi))
  rw [firstImages_add, List.map_append, hold, hm.front.new]

/-- An image that is known is reported under the handle that it had, as the list of images
is fixed. -/
theorem getElem?_reported (h : L.Fits fixed ids front back w t) (hP : P ∈ L.objects)
    (hnot : P ∉ L.gone) (hwrapped : P.isBuffer = false) (hn : (t.imagesOf (front P)).length = n)
    (hk : produced.length - n = k) (hfixed : produced <+: fixed P)
    (hm : Makes L (firstImages P produced.length) (nextImages P n k) (produced.drop n) hs front
      back front' back' w w') {i : Nat} (hi : i < produced.length) :
    produced[i]? = some (back' (.child P .image 0 i)) := by
  have hmem := (h.keeps.images P hP hnot hwrapped).2
  rw [hn] at hmem
  by_cases hlt : i < n
  · -- the handle that is reported and the one that was known are at one place of the list
    have hobject := (hmem i).2 hlt
    have hleading : (fixed P)[i]? = produced[i]? := by
      obtain ⟨rest, hrest⟩ := hfixed
      rw [← hrest, List.getElem?_append_left hi]
    rw [← hleading, h.names.image P i hobject, hm.back.old _ hobject]
  · have hdrop : (produced.drop n)[i - n]? = produced[i]? := by
      rw [List.getElem?_drop, Nat.add_sub_cancel' (Nat.le_of_not_lt hlt)]
    have hrange : (List.range k)[i - n]? = some (i - n) := List.getElem?_range (by omega)
    rw [← hdrop, ← hm.back.new, nextImages, List.getElem?_map, List.getElem?_map, hrange]
    show some (back' (.child P .image 0 (n + (i - n)))) = _
    rw [Nat.add_sub_cancel' (Nat.le_of_not_lt hlt)]

/-- Images of a swapchain are reported: first those that are known, then new ones. -/
theorem images (h : L.Fits fixed ids front back w t) (hP : P ∈ L.objects) (hnot : P ∉ L.gone)
    (hwrapped : P.isBuffer = false) (hn : (t.imagesOf (front P)).length = n)
    (hk : produced.length - n = k) (hfixed : produced <+: fixed P)
    (hm : Makes L (firstImages P produced.length) (nextImages P n k) (produced.drop n) hs front
      back front' back' w w')
    (hdrawn : w'.map.drawn ≤ ids) :
    (L.record (firstImages P produced.length)).Fits fixed ids front' back' w'
      (t.setImages (front P) (t.imagesOf (front P) ++ hs)) := by
  have hmem := (h.keeps.images P hP hnot hwrapped).2
  have hall := h.known_append hP hnot hwrapped hn hm
  rw [hn] at hmem
  refine ⟨h.names.record hm fun swapchain i hi => ?_, h.holds.record h.names hm hdrawn,
    h.keeps.record h.names hm (fun p c hc => ?_) (fun swapchain hs hnot' hwrapped' => ?_) rfl⟩
  · obtain ⟨rfl, hle, hlt⟩ := mem_nextImages.1 hi
    have hlt : i < produced.length := by omega
    obtain ⟨rest, hrest⟩ := hfixed
    rw [← hrest, List.getElem?_append_left hlt]
    exact h.getElem?_reported hP hnot hwrapped hn hk ⟨rest, hrest⟩ hm hlt
  · rcases hc with hc | hc
    · exact .inl (.inl hc)
    · rw [Tracked.imagesOf_setImages] at hc
      split at hc
      · next hp =>
        subst hp
        rcases List.mem_append.1 hc with hc | hc
        · exact .inl (.inr hc)
        · rw [← hm.front.new] at hc
          obtain ⟨o, ho, heq⟩ := List.mem_map.1 hc
          exact .inr ⟨P, hP, hwrapped, rfl, o, ho, isChildOf_of_mem_nextImages ho, heq⟩
      · exact .inl (.inr hc)
  · rw [Tracked.imagesOf_setImages]
    by_cases hsame : swapchain = P
    · subst hsame
      rw [if_pos rfl, hall]
      refine ⟨?_, fun i => ?_⟩
      · rw [List.length_map, length_firstImages]
      · rw [hm.mem_iff, hmem, mem_nextImages, List.length_map, length_firstImages, eq_self,
          true_and]
        omega
    · rw [if_neg (Ne.symm (h.front_ne (.inr ⟨hP, hwrapped⟩) hs hwrapped' hsame))]
      refine (h.keeps.images swapchain hs hnot' hwrapped').of_extends hm.front fun i => ?_
      rw [hm.mem_iff]
      exact or_iff_left fun hi => hsame (mem_nextImages.1 hi).1

end Images

end Fits

/-! ### Calls -/

section Calls

variable {fixed : Obj → List Handle} {ids : Nat} {L : Ledger} {front back : Obj → Handle}
  {w : Wrapper} {t t' : Tracked} {source : Handle → Source} {a : Handle → Handle}

theorem retire_nil (L : Ledger) : L.retire [] = L := by
  unfold retire
  rw [List.append_nil]

/-- After a call that came to `x` where handles are wrapped, and to `o` where they are not,
the new objects have handles as well, and everything is in step with them. -/
def Follows (fixed : Obj → List Handle) (ids : Nat) (L : Ledger) (front back : Obj → Handle)
    (c : ProgramCall) (o : Outcome) (x : Outcome × Wrapper × Tracked) : Prop :=
  ∃ front' back', (∀ u ∈ L.objects, front' u = front u ∧ back' u = back u) ∧
    (L.next c o).Fits fixed ids front' back' x.2.1 x.2.2 ∧
      ∀ i u, (L.made c o)[i]? = some u → x.1.slot i = front' u ∧ o.slot i = back' u

variable {c : ProgramCall} {o : Outcome} {x : Outcome × Wrapper × Tracked}

/-- Nothing is made. -/
theorem follows_of_fits (hmade : L.made c o = [])
    (h : (L.retire (L.lost c o)).Fits fixed ids front back x.2.1 x.2.2) :
    Follows fixed ids L front back c o x := by
  refine ⟨front, back, fun _ _ => ⟨rfl, rfl⟩, ?_, fun i u hu => ?_⟩
  · rw [next_eq, hmade]
    exact h.rest
  · rw [hmade] at hu
    exact absurd hu (by simp)

/-- What else is kept does not matter. -/
theorem Follows.congr (h : Follows fixed ids L front back c o x) (hmatches : x.2.2.Matches t) :
    Follows fixed ids L front back c o (x.1, x.2.1, t) := by
  obtain ⟨front', back', hold, hfits, hnew⟩ := h
  exact ⟨front', back', hold, hfits.congr hmatches, hnew⟩

/-- The names of a request that may be used, where `a` says what the application passes. -/
structure Passes (L : Ledger) (front : Obj → Handle) (source : Handle → Source)
    (a : Handle → Handle) (names : List (HandleUse × Handle)) : Prop where
  permitted : ∀ p ∈ names, L.permits source p = true
  value : ∀ n, source n = .null ∨ L.object (source n) ∈ L.objects →
    a n = front (L.object (source n))

/-- A name that stands for a wrapped object, or for none. -/
theorem Passes.wrapped {names : List (HandleUse × Handle)} (h : L.Passes front source a names)
    {n : Handle} (hn : (.wrapped, n) ∈ names) :
    Fits.IsWrapped L (L.object (source n)) ∧ a n = front (L.object (source n)) := by
  rcases permits_wrapped.1 (h.permitted _ hn) with hnull | ⟨⟨hmem, -⟩, hwrapped⟩
  · exact ⟨.inl (by rw [hnull]; rfl), h.value n (.inl hnull)⟩
  · exact ⟨.inr ⟨hmem, hwrapped⟩, h.value n (.inr hmem)⟩

/-- A name that stands for an owner. -/
theorem Passes.owner {names : List (HandleUse × Handle)} (h : L.Passes front source a names)
    {n : Handle} (hn : (.owner, n) ∈ names) :
    (L.object (source n) ∈ L.objects ∧ L.object (source n) ∉ L.gone ∧
      (L.object (source n)).isBuffer = false) ∧ a n = front (L.object (source n)) := by
  obtain ⟨⟨hmem, hnot⟩, hwrapped⟩ := permits_owner.1 (h.permitted _ hn)
  exact ⟨⟨hmem, hnot, hwrapped⟩, h.value n (.inr hmem)⟩

/-- What goes before a request is brought before the validation objects belongs to objects
that are lost. -/
theorem Fits.prepare (h : L.Fits fixed ids front back w t)
    (hpasses : L.Passes front c.source a c.template.names) (o : Outcome) :
    (L.retire (L.lost c o)).Fits fixed ids front back w (t.spared (c.template.mapHandles a)) := by
  obtain ⟨template, source, out⟩ := c
  have hgone := h.retire (L.lost ⟨template, source, out⟩ o)
  cases template with
  | destroy kind n =>
    cases kind with
    | commandPool =>
      obtain ⟨hP, hvalue⟩ := hpasses.wrapped (n := n) List.mem_cons_self
      show Fits fixed ids _ front back w (t.forgetCommandPool (a n))
      rw [hvalue]
      refine hgone.spare hP fun u _ hnot hmem => hnot ?_
      exact mem_gone_retire.2 (.inr (List.mem_cons_of_mem _ hmem))
    | _ => exact hgone
  | _ => exact hgone

theorem notMem_of_retire {gone : List Obj} {u : Obj} (hnot : u ∉ (L.retire gone).gone) :
    u ∉ gone := fun hmem => hnot (mem_gone_retire.2 (.inr hmem))

variable {out : Outputs}

theorem follows_destroy {kind : Destroyable} {n : Handle}
    (hpasses : L.Passes front source a [(.wrapped, n)])
    (h : (L.retire (L.lost ⟨.destroy kind n, source, out⟩ o)).Fits fixed ids front back w t) :
    Follows fixed ids L front back ⟨.destroy kind n, source, out⟩ o
      (Device.aftermath (.destroy kind (a n)) w t o) := by
  obtain ⟨hP, hvalue⟩ := hpasses.wrapped List.mem_cons_self
  refine follows_of_fits rfl ?_
  rw [Device.aftermath_of_unwrapped rfl rfl, hvalue]
  refine h.destroy hP (fun u _ hnot => ?_) kind o
  have hnot := notMem_of_retire hnot
  exact ⟨fun heq => hnot (heq ▸ List.mem_cons_self), fun hmem => hnot (List.mem_cons_of_mem _ hmem)⟩

theorem follows_release {n : Handle} (hpasses : L.Passes front source a [(.wrapped, n)])
    (h : (L.retire (L.lost ⟨.releaseConfiguration n, source, out⟩ o)).Fits fixed ids front back
      w t) :
    Follows fixed ids L front back ⟨.releaseConfiguration n, source, out⟩ o
      (Device.aftermath (.releaseConfiguration (a n)) w t o) := by
  obtain ⟨hP, hvalue⟩ := hpasses.wrapped List.mem_cons_self
  refine follows_of_fits rfl ?_
  rw [Device.aftermath_of_unwrapped rfl rfl, hvalue]
  dsimp only [lost, DeviceRequest.removed] at h ⊢
  by_cases hsuccess : o.1 = .success
  · rw [if_pos hsuccess] at h
    rw [if_pos hsuccess, if_pos hsuccess]
    exact h.release hP fun u _ hnot heq => notMem_of_retire hnot (heq ▸ List.mem_cons_self)
  · rw [if_neg hsuccess] at h
    rw [if_neg hsuccess, if_neg hsuccess]
    exact h

theorem follows_reset {n : Handle} {flags : UInt32}
    (hpasses : L.Passes front source a [(.wrapped, n)])
    (h : (L.retire (L.lost ⟨.resetDescriptorPool n flags, source, out⟩ o)).Fits fixed ids front
      back w t) :
    Follows fixed ids L front back ⟨.resetDescriptorPool n flags, source, out⟩ o
      (Device.aftermath (.resetDescriptorPool (a n) flags) w t o) := by
  obtain ⟨hP, hvalue⟩ := hpasses.wrapped List.mem_cons_self
  refine follows_of_fits rfl ?_
  rw [Device.aftermath_of_unwrapped rfl rfl, hvalue]
  dsimp only [lost, DeviceRequest.removed, Tracked.after] at h ⊢
  by_cases hsuccess : o.1 = .success
  · rw [if_pos hsuccess] at h
    rw [if_pos hsuccess, if_pos hsuccess, if_pos hsuccess]
    exact h.reset hP fun u _ hnot => notMem_of_retire hnot
  · rw [if_neg hsuccess] at h
    rw [if_neg hsuccess, if_neg hsuccess, if_neg hsuccess]
    exact h

theorem follows_freeSets {pool : Handle} {sets : AppArray Handle}
    (hpasses : L.Passes front source a ((.wrapped, pool) :: HandleUse.wrapped.of sets.toList))
    (h : (L.retire (L.lost ⟨.freeSets pool sets, source, out⟩ o)).Fits fixed ids front back w t) :
    Follows fixed ids L front back ⟨.freeSets pool sets, source, out⟩ o
      (Device.aftermath (.freeSets (a pool) (sets.map a)) w t o) := by
  have hnames : ∀ n ∈ sets.toList,
      Fits.IsWrapped L (L.object (source n)) ∧ a n = front (L.object (source n)) :=
    fun n hn => hpasses.wrapped (List.mem_cons_of_mem _ (List.mem_map.2 ⟨n, hn, rfl⟩))
  have hvalues : (sets.map a).toList
      = (sets.toList.map fun n => L.object (source n)).map front := by
    rw [AppArray.toList_map, List.map_map]
    exact List.map_congr_left fun n hn => (hnames n hn).2
  refine follows_of_fits rfl ?_
  rw [Device.aftermath_of_unwrapped rfl rfl]
  dsimp only [lost, DeviceRequest.removed, Tracked.after] at h ⊢
  by_cases hsuccess : o.1 = .success
  · rw [if_pos hsuccess] at h
    rw [if_pos hsuccess, if_pos hsuccess, if_pos hsuccess, hvalues]
    refine h.freeSets (fun u hu => ?_) (fun u _ hnot => notMem_of_retire hnot) (a pool)
    obtain ⟨n, hn, rfl⟩ := List.mem_map.1 hu
    exact (hnames n hn).1
  · rw [if_neg hsuccess] at h
    rw [if_neg hsuccess, if_neg hsuccess, if_neg hsuccess]
    exact h

/-- Command buffers that are freed have other handles than those that are not: their
handles are told apart before they are gone. -/
theorem follows_freeBuffers {pool : Handle} {buffers : AppArray Handle}
    (hpasses : L.Passes front source a
      ((.wrapped, pool) :: HandleUse.commandBuffer.of buffers.toList))
    (hL : L.Fits fixed ids front back w t')
    (h : (L.retire (L.lost ⟨.freeCommandBuffers pool buffers, source, out⟩ o)).Fits fixed ids
      front back w t) :
    Follows fixed ids L front back ⟨.freeCommandBuffers pool buffers, source, out⟩ o
      (Device.aftermath (.freeCommandBuffers (a pool) (buffers.map a)) w t o) := by
  refine follows_of_fits rfl ?_
  rw [Device.aftermath_of_unwrapped rfl rfl]
  refine h.freeBuffers fun u hu hnot hbuffer hmem => ?_
  rw [AppArray.toList_map] at hmem
  obtain ⟨n, hn, heq⟩ := List.mem_map.1 hmem
  -- two command buffers that may be named before the call have different handles
  have hlive : u ∉ L.gone := fun hgone => hnot (mem_gone_retire.2 (.inl hgone))
  have hpermitted := hpasses.permitted (.commandBuffer, n)
    (List.mem_cons_of_mem _ (List.mem_map.2 ⟨n, hn, rfl⟩))
  rcases permits_commandBuffer.1 hpermitted with hnull | ⟨⟨hn', hlive'⟩, hbuffer'⟩
  · -- the null handle is no command buffer
    have hzero : a n = 0 := by
      rw [hpasses.value n (.inl hnull), hnull]
      exact hL.names.null_front
    exact hL.names.ne_zero u hu (heq.symm.trans hzero)
  · have hsame := hL.keeps.distinct u hu _ hn' hlive hlive' hbuffer hbuffer'
      (heq.symm.trans (hpasses.value n (.inr hn')))
    exact notMem_of_retire hnot (hsame ▸ List.mem_map.2 ⟨n, hn, rfl⟩)

/-! ### Calls that make objects -/

variable {made os : List Obj} {reals hs : List Handle} {front' back' : Obj → Handle}
  {w' : Wrapper}

/-- There are surrogates for all new objects. -/
theorem exists_makes (h : L.Fits fixed ids front back w t) (hzero : 0 ∉ reals)
    (hlimit : (w.wrapNewMany reals).2.map.drawn ≤ drawLimit)
    (hlength : os.length = reals.length) (hnodup : os.Nodup) (hnull : .null ∉ os)
    (hcases : ∀ u ∈ made, u ∈ L.objects ∨ u ∈ os) (hsub : ∀ u ∈ os, u ∈ made)
    (hnew : ∀ u ∈ os, u ∉ L.objects) (hwrapped : ∀ u ∈ os, u.isBuffer = false)
    (hfamily : ∀ owner kind call index, .child owner kind call index ∈ os →
      owner ∈ L.objects ∧ owner.isBuffer = false)
    (hrecent : ∀ u ∈ os, u.call ≤ L.size) :
    ∃ front' back', Makes L made os reals (w.wrapNewMany reals).1 front back front' back' w
      (w.wrapNewMany reals).2 := by
  have hnew' : ∀ u ∈ os, u ∉ L.objects ∧ u ≠ .null :=
    fun u hu => ⟨hnew u hu, fun heq => hnull (heq ▸ hu)⟩
  obtain ⟨front', hfront⟩ := exists_extends front
    (hlength.trans (w.length_wrapNewMany reals).symm) hnodup hnew'
  obtain ⟨back', hback⟩ := exists_extends back hlength hnodup hnew'
  exact ⟨front', back', Wrapper.mints_wrapNewMany h.holds.enabled hzero hlimit, hfront, hback,
    hcases, hsub, hnew, hwrapped, hfamily, hrecent⟩

/-- An object named after the next call is new. -/
theorem notMem_of_call (h : L.Fits fixed ids front back w t) {u : Obj} (hu : u.call = L.size) :
    u ∉ L.objects := fun hmem => Nat.ne_of_lt (h.names.recent u hmem) hu

/-- There are surrogates for all objects named after the next call. -/
theorem exists_makes_named (h : L.Fits fixed ids front back w t)
    (hzero : 0 ∉ c.template.produced o)
    (hlimit : (w.wrapNewMany (c.template.produced o)).2.map.drawn ≤ drawLimit)
    (hnodup : (L.made c o).Nodup) (hcall : ∀ i, (L.name c i).call = L.size)
    (hnull : ∀ i, L.name c i ≠ .null) (hwrapped : ∀ i, (L.name c i).isBuffer = false)
    (hfamily : ∀ i owner kind call index, L.name c i = .child owner kind call index →
      owner ∈ L.objects ∧ owner.isBuffer = false) :
    ∃ front' back', Makes L (L.made c o) (L.made c o) (c.template.produced o)
      (w.wrapNewMany (c.template.produced o)).1 front back front' back' w
      (w.wrapNewMany (c.template.produced o)).2 := by
  refine exists_makes h hzero hlimit (length_made L c o) hnodup (notMem_made hnull)
    (fun u hu => .inr hu) (fun u hu => hu) (fun u hu => ?_) (fun u hu => ?_)
    (fun owner kind call index hu => ?_) fun u hu => ?_
  · obtain ⟨i, rfl⟩ := mem_made hu
    exact notMem_of_call h (hcall i)
  · obtain ⟨i, rfl⟩ := mem_made hu
    exact hwrapped i
  · obtain ⟨i, heq⟩ := mem_made hu
    exact hfamily i owner kind call index heq.symm
  · obtain ⟨i, rfl⟩ := mem_made hu
    exact Nat.le_of_eq (hcall i)

/-- New objects are found in the first output slots. -/
theorem slots_of_makes (hm : Makes L made os reals hs front back front' back' w w')
    (hreals : reals <+: o.2.slots.getD []) :
    ∀ i u, os[i]? = some u → (o.present hs).slot i = front' u ∧ o.slot i = back' u := by
  intro i u hu
  have hfront : hs[i]? = some (front' u) := by
    rw [← hm.front.new, List.getElem?_map, hu]
    rfl
  have hback : reals[i]? = some (back' u) := by
    rw [← hm.back.new, List.getElem?_map, hu]
    rfl
  have hlt : i < reals.length := (List.getElem?_eq_some_iff.1 hback).1
  exact ⟨Outcome.slot_present hfront (Nat.lt_of_lt_of_le hlt hreals.length_le),
    Outcome.slot_of_prefix hreals hback⟩

/-- Objects are made, and nothing is lost. -/
theorem follows_of_makes (hlost : L.lost c o = [])
    (hm : Makes L (L.made c o) os reals hs front back front' back' w w')
    (hfits : (L.record (L.made c o)).Fits fixed ids front' back' x.2.1 x.2.2)
    (hslots : ∀ i u, (L.made c o)[i]? = some u → x.1.slot i = front' u ∧ o.slot i = back' u) :
    Follows fixed ids L front back c o x := by
  refine ⟨front', back', fun u hu => ⟨hm.front.old u hu, hm.back.old u hu⟩, ?_, hslots⟩
  rw [next_eq, hlost, retire_nil]
  exact hfits

theorem follows_create {info : CreateInfo} (h : L.Fits fixed ids front back w t)
    (hzero : 0 ∉ (DeviceRequest.create info).produced o) (hids : ids ≤ drawLimit)
    (hdrawn : (Device.aftermath (.create (info.mapHandles a)) w t o).2.1.map.drawn ≤ ids) :
    Follows fixed ids L front back ⟨.create info, source, out⟩ o
      (Device.aftermath (.create (info.mapHandles a)) w t o) := by
  let c : ProgramCall := ⟨.create info, source, out⟩
  let reals := (DeviceRequest.create info).produced o
  have hafter : Device.aftermath (.create (info.mapHandles a)) w t o
      = (o.present (w.wrapNewMany reals).1, (w.wrapNewMany reals).2, t) :=
    Device.aftermath_of_removed rfl rfl
  rw [hafter] at hdrawn ⊢
  -- at most one object is created
  have hlength : (L.made c o).length ≤ 1 := by
    rw [length_made]
    show (if _ then List.take 1 _ else []).length ≤ 1
    split
    · exact List.length_take_le _ _
    · exact Nat.zero_le 1
  have hnodup : (L.made c o).Nodup := by
    match L.made c o, hlength with
    | [], _ => exact .nil
    | [u], _ => exact List.nodup_singleton u
  obtain ⟨front', back', hm⟩ := exists_makes_named (c := c) h hzero (Nat.le_trans hdrawn hids)
    hnodup (fun _ => rfl) (fun _ => Obj.noConfusion) (fun _ => rfl)
    fun _ _ _ _ _ heq => Obj.noConfusion heq
  have hfits := h.create hm hdrawn fun swapchain i => notMem_made fun _ => Obj.noConfusion
  exact follows_of_makes rfl hm hfits (slots_of_makes hm (DeviceRequest.produced_prefix _ o))

theorem follows_allocateSets {pool : Handle} {layouts : AppArray Handle}
    (hpasses : L.Passes front source a ((.owner, pool) :: HandleUse.wrapped.of layouts.toList))
    (h : L.Fits fixed ids front back w t)
    (hzero : 0 ∉ (DeviceRequest.allocateSets pool layouts).produced o) (hids : ids ≤ drawLimit)
    (hdrawn : (Device.aftermath (.allocateSets (a pool) (layouts.map a)) w t o).2.1.map.drawn
      ≤ ids) :
    Follows fixed ids L front back ⟨.allocateSets pool layouts, source, out⟩ o
      (Device.aftermath (.allocateSets (a pool) (layouts.map a)) w t o) := by
  obtain ⟨⟨hP, -, hwrapped⟩, hvalue⟩ := hpasses.owner List.mem_cons_self
  let c : ProgramCall := ⟨.allocateSets pool layouts, source, out⟩
  let reals := (DeviceRequest.allocateSets pool layouts).produced o
  let hs := (w.wrapNewMany reals).1
  have hafter : Device.aftermath (.allocateSets (a pool) (layouts.map a)) w t o
      = (o.present hs, (w.wrapNewMany reals).2,
          if o.1 = .success then t.addSets (a pool) hs else t) :=
    Device.aftermath_of_removed rfl
      (DeviceRequest.produced_mapHandles a (.allocateSets pool layouts) o)
  rw [hafter] at hdrawn ⊢
  have hname : Function.Injective (L.name c) := Obj.child_injective _ _ _
  have hfamily : ∀ i owner kind call index, L.name c i = .child owner kind call index →
      owner ∈ L.objects ∧ owner.isBuffer = false := by
    intro i owner kind call index heq
    obtain ⟨rfl, -⟩ := Obj.child.inj heq
    exact ⟨hP, hwrapped⟩
  have himage : ∀ swapchain i, .child swapchain .image 0 i ∉ L.made c o :=
    fun swapchain i => notMem_made fun _ heq => ChildKind.noConfusion (Obj.child.inj heq).2.1
  obtain ⟨front', back', hm⟩ := exists_makes_named (c := c) h hzero (Nat.le_trans hdrawn hids)
    (nodup_made hname o) (fun _ => rfl) (fun _ => Obj.noConfusion) (fun _ => rfl) hfamily
  refine follows_of_makes rfl hm ?_ (slots_of_makes hm (DeviceRequest.produced_prefix _ o))
  dsimp only
  split
  · rw [hvalue]
    refine h.allocateSets hm hdrawn himage hP hwrapped fun u hu => ?_
    obtain ⟨i, rfl⟩ := mem_made hu
    exact beq_self_eq_true _
  · exact h.create hm hdrawn himage

/-- Command buffers are tracked only if they are secondary and were allocated. -/
theorem aftermath_allocateBuffers (pool : Handle) (level : BufferLevel) (count : UInt32)
    (w : Wrapper) (t : Tracked) (o : Outcome) :
    Device.aftermath (.allocateCommandBuffers pool level count) w t o
      = (o, w, if level = .secondary then
          t.addSecondaries pool ((DeviceRequest.allocateCommandBuffers pool level count).produced o)
        else t) := by
  refine (Device.aftermath_of_unwrapped rfl rfl).trans (congrArg (fun t => (o, w, t)) ?_)
  show (if o.1 = .success ∧ level = .secondary then
      t.addSecondaries pool (o.2.first count.toNat) else t)
    = if level = .secondary then t.addSecondaries pool
        (if o.1 = .success then o.2.first count.toNat else []) else t
  by_cases hsuccess : o.1 = .success
  · simp only [hsuccess, true_and, if_true]
  · rw [if_neg fun hboth => hsuccess hboth.1, if_neg hsuccess]
    exact (ite_self t).symm

/-- Command buffers get their handles from the next layer, the same ones in both runs. -/
theorem exists_adopts {pool : Handle} {level : BufferLevel} {count : UInt32}
    (h : L.Fits fixed ids front back w t) (hP : L.object (source pool) ∈ L.objects)
    (hwrapped : (L.object (source pool)).isBuffer = false)
    (hzero : 0 ∉ (DeviceRequest.allocateCommandBuffers pool level count).produced o)
    (hnodup : ((DeviceRequest.allocateCommandBuffers pool level count).produced o).Nodup)
    (hapart : ∀ k ∈ (DeviceRequest.allocateCommandBuffers pool level count).produced o,
      isApart ids k = true)
    (hunused : ∀ u ∈ L.objects, u ∉ L.gone → u.isBuffer = true →
      front u ∉ (DeviceRequest.allocateCommandBuffers pool level count).produced o) :
    ∃ front' back', Adopts ids L (L.made ⟨.allocateCommandBuffers pool level count, source, out⟩ o)
      ((DeviceRequest.allocateCommandBuffers pool level count).produced o) front back front'
      back' := by
  let c : ProgramCall := ⟨.allocateCommandBuffers pool level count, source, out⟩
  let made := L.made c o
  have hmem : ∀ u ∈ made, ∃ i, u = L.name c i := fun u hu => mem_made hu
  have hlength : made.length = (c.template.produced o).length := length_made L c o
  have hname : Function.Injective (L.name c) := Obj.child_injective _ _ _
  have hcall : ∀ u ∈ made, u.call = L.size := by
    intro u hu
    obtain ⟨i, rfl⟩ := hmem u hu
    rfl
  have hnew : ∀ u ∈ made, u ∉ L.objects ∧ u ≠ .null := by
    intro u hu
    refine ⟨notMem_of_call h (hcall u hu), fun heq => ?_⟩
    exact notMem_made (fun _ => Obj.noConfusion) (heq ▸ hu)
  obtain ⟨front', hfront⟩ := exists_extends front hlength (nodup_made hname o) hnew
  obtain ⟨back', hback⟩ := exists_extends back hlength (nodup_made hname o) hnew
  refine ⟨front', back', fun u hu => (hnew u hu).1, fun u hu => ?buffers, hnodup, hzero, hapart,
    hunused, fun owner kind call index hu => ?family, fun u hu => Nat.le_of_eq (hcall u hu),
    hfront, hback⟩
  case buffers =>
    obtain ⟨i, rfl⟩ := hmem u hu
    show Obj.isBuffer (.child _ (if level = .secondary then .secondary else .primary) _ i) = true
    split <;> rfl
  case family =>
    obtain ⟨i, heq⟩ := hmem _ hu
    obtain ⟨rfl, -⟩ := Obj.child.inj heq
    exact ⟨hP, hwrapped⟩

/-- A command buffer that is made as a secondary one was asked for as one, from its pool. -/
theorem eq_of_secondary_mem_made {pool : Handle} {level : BufferLevel} {count : UInt32}
    {owner : Obj} {call index : Nat} (hu : .child owner .secondary call index
      ∈ L.made ⟨.allocateCommandBuffers pool level count, source, out⟩ o) :
    owner = L.object (source pool) ∧ level = .secondary := by
  obtain ⟨i, heq⟩ := mem_made hu
  obtain ⟨rfl, hkind, -⟩ := Obj.child.inj heq
  refine ⟨rfl, ?_⟩
  by_contra hprimary
  exact ChildKind.noConfusion (hkind.trans (if_neg hprimary))

/-- Command buffers come from the next layer as they are. -/
theorem follows_allocateBuffers {pool : Handle} {level : BufferLevel} {count : UInt32}
    (hpasses : L.Passes front source a [(.owner, pool)])
    (h : L.Fits fixed ids front back w t)
    (hzero : 0 ∉ (DeviceRequest.allocateCommandBuffers pool level count).produced o)
    (hnodup : ((DeviceRequest.allocateCommandBuffers pool level count).produced o).Nodup)
    (hapart : ∀ k ∈ (DeviceRequest.allocateCommandBuffers pool level count).produced o,
      isApart ids k = true)
    (hunused : ∀ u ∈ L.objects, u ∉ L.gone → u.isBuffer = true →
      front u ∉ (DeviceRequest.allocateCommandBuffers pool level count).produced o) :
    Follows fixed ids L front back ⟨.allocateCommandBuffers pool level count, source, out⟩ o
      (Device.aftermath (.allocateCommandBuffers (a pool) level count) w t o) := by
  obtain ⟨⟨hP, -, hwrapped⟩, hvalue⟩ := hpasses.owner List.mem_cons_self
  let c : ProgramCall := ⟨.allocateCommandBuffers pool level count, source, out⟩
  obtain ⟨front', back', ha⟩ :
      ∃ front' back', Adopts ids L (L.made c o) (c.template.produced o) front back front' back' :=
    exists_adopts h hP hwrapped hzero hnodup hapart hunused
  rw [aftermath_allocateBuffers]
  refine ⟨front', back', fun u hu => ⟨ha.front.old u hu, ha.back.old u hu⟩, ?_, fun i u hu => ?_⟩
  · show (L.retire [] |>.record (L.made c o)).Fits fixed ids front' back' w _
    rw [retire_nil, hvalue]
    exact h.allocateBuffers ha level fun _ _ _ hu => eq_of_secondary_mem_made hu
  · have hslot : o.slot i = back' u := by
      have hleading : c.template.produced o <+: o.2.slots.getD [] :=
        DeviceRequest.produced_prefix _ o
      refine Outcome.slot_of_prefix hleading ?_
      rw [← ha.back.new, List.getElem?_map, hu]
      rfl
    have hmem := List.mem_of_getElem? hu
    exact ⟨hslot.trans (ha.same hmem), hslot⟩

/-- The images of a swapchain that are new get surrogates; the others have theirs. -/
theorem exists_makes_images {P : Obj} (h : L.Fits fixed ids front back w t) (hP : P ∈ L.objects)
    (hwrapped : P.isBuffer = false) {images produced : List Handle}
    (himages : L.HasImages front P images) (hzero : 0 ∉ produced)
    (hlimit : (w.wrapNewMany (produced.drop images.length)).2.map.drawn ≤ drawLimit) :
    ∃ front' back', Makes L (firstImages P produced.length)
      (nextImages P images.length (produced.length - images.length))
      (produced.drop images.length) (w.wrapNewMany (produced.drop images.length)).1 front back
      front' back' w (w.wrapNewMany (produced.drop images.length)).2 := by
  -- what is new has a number that no image had before
  have hshape : ∀ u ∈ nextImages P images.length (produced.length - images.length),
      ∃ i, images.length ≤ i ∧ i < produced.length ∧ u = .child P .image 0 i := by
    intro u hu
    obtain ⟨j, hj, rfl⟩ := List.mem_map.1 hu
    have hlt := List.mem_range.1 hj
    exact ⟨images.length + j, by omega, by omega, rfl⟩
  have hzero' : 0 ∉ produced.drop images.length := fun hmem => hzero (List.mem_of_mem_drop hmem)
  refine exists_makes h hzero' hlimit ?length ?nodup (fun hu => ?null) (fun u hu => ?cases)
    (fun u hu => ?sub) (fun u hu => ?new) (fun u hu => ?wrapped)
    (fun owner kind call index hu => ?family) fun u hu => ?recent
  case length =>
    unfold nextImages
    rw [List.length_map, List.length_range, List.length_drop]
  case nodup =>
    refine List.Nodup.map (fun i j heq => ?_) List.nodup_range
    exact Nat.add_left_cancel (Obj.child_injective _ _ _ heq)
  case null =>
    obtain ⟨i, -, -, heq⟩ := hshape _ hu
    exact Obj.noConfusion heq
  case cases =>
    obtain ⟨i, hi, rfl⟩ := List.mem_map.1 hu
    have hlt := List.mem_range.1 hi
    by_cases hknown : i < images.length
    · exact .inl ((himages.2 i).2 hknown)
    · exact .inr (mem_nextImages.2 ⟨rfl, by omega, by omega⟩)
  case sub =>
    obtain ⟨i, -, hlt, rfl⟩ := hshape u hu
    exact mem_firstImages.2 hlt
  case new =>
    obtain ⟨i, hle, -, rfl⟩ := hshape u hu
    exact fun hmem => absurd ((himages.2 i).1 hmem) (Nat.not_lt_of_le hle)
  case wrapped =>
    obtain ⟨i, -, -, rfl⟩ := hshape u hu
    rfl
  case family =>
    obtain ⟨i, -, -, heq⟩ := hshape _ hu
    obtain ⟨rfl, -⟩ := Obj.child.inj heq
    exact ⟨hP, hwrapped⟩
  case recent =>
    obtain ⟨i, -, -, rfl⟩ := hshape u hu
    exact Nat.zero_le _

theorem follows_images {swapchain : Handle}
    (hpasses : L.Passes front source a [(.owner, swapchain)])
    (h : L.Fits fixed ids front back w t)
    (hzero : 0 ∉ (DeviceRequest.getSwapchainImages swapchain).produced o)
    (hfixed : (DeviceRequest.getSwapchainImages swapchain).produced o
      <+: fixed (L.object (source swapchain)))
    (hids : ids ≤ drawLimit)
    (hdrawn : (Device.aftermath (.getSwapchainImages (a swapchain)) w t o).2.1.map.drawn ≤ ids) :
    Follows fixed ids L front back ⟨.getSwapchainImages swapchain, source, out⟩ o
      (Device.aftermath (.getSwapchainImages (a swapchain)) w t o) := by
  obtain ⟨⟨hP, hnot, hwrapped⟩, hvalue⟩ := hpasses.owner List.mem_cons_self
  rw [hvalue] at hdrawn ⊢
  let P := L.object (source swapchain)
  let produced := (DeviceRequest.getSwapchainImages swapchain).produced o
  have hmade : L.made ⟨.getSwapchainImages swapchain, source, out⟩ o
      = firstImages P produced.length := rfl
  by_cases hreports : o.2.slots.isSome = true ∧ o.1.reports = true
  · let known := t.imagesOf (front P)
    let minted := w.wrapNewMany (produced.drop known.length)
    have hafter : Device.aftermath (.getSwapchainImages (front P)) w t o
        = (o.present ((known ++ minted.1).take o.2.count.toNat), minted.2,
            t.setImages (front P) (known ++ minted.1)) := by
      refine (Device.aftermath_of_removed rfl rfl).trans ?_
      dsimp only [Tracked.after, DeviceRequest.shown]
      rw [if_pos hreports, if_pos hreports.2]
      rfl
    rw [hafter] at hdrawn ⊢
    obtain ⟨front', back', hm⟩ := exists_makes_images h hP hwrapped
      (h.keeps.images P hP hnot hwrapped) hzero (Nat.le_trans hdrawn hids)
    refine follows_of_makes rfl hm (h.images hP hnot hwrapped rfl rfl hfixed hm hdrawn)
      fun i u hu => ?_
    rw [hmade] at hu
    have hlt : i < produced.length := by
      have hlt := (List.getElem?_eq_some_iff.1 hu).1
      rw [length_firstImages] at hlt
      exact hlt
    obtain rfl : .child P .image 0 i = u :=
      Option.some.inj ((getElem?_firstImages hlt).symm.trans hu)
    have hcount : produced.length ≤ o.2.count.toNat := by
      show (if o.1.reports then o.2.first o.2.count.toNat else []).length ≤ _
      rw [if_pos hreports.2]
      exact List.length_take_le _ _
    have hknown : i < known.length + (produced.length - known.length) := by omega
    -- known images and new ones fill the array together, in the order of their numbers
    have hslot : ((known ++ minted.1).take o.2.count.toNat)[i]?
        = some (front' (.child P .image 0 i)) := by
      rw [List.getElem?_take_of_lt (Nat.lt_of_lt_of_le hlt hcount),
        h.known_append hP hnot hwrapped rfl hm, List.getElem?_map, getElem?_firstImages hknown]
      rfl
    have hslot' := h.getElem?_reported hP hnot hwrapped rfl rfl hfixed hm hlt
    have hleading : produced <+: o.2.slots.getD [] := DeviceRequest.produced_prefix _ o
    exact ⟨Outcome.slot_present hslot (Nat.lt_of_lt_of_le hlt hleading.length_le),
      Outcome.slot_of_prefix hleading hslot'⟩
  · have hnone : produced = [] := DeviceRequest.produced_images_eq_nil hreports
    rw [Device.aftermath_images_of_not hreports]
    refine follows_of_fits ?_ ?_
    · rw [hmade, hnone]
      rfl
    · show (L.retire []).Fits fixed ids front back w t
      rw [retire_nil]
      exact h

/-- **Whatever comes of an answer, everything stays in step**, when the next layer answers
as it has to. -/
theorem follows {outcomes : List Outcome} (hcovered : c.template.isCovered = true)
    (hpasses : L.Passes front c.source a c.template.names)
    (hL : L.Fits fixed ids front back w t')
    (h : (L.retire (L.lost c o)).Fits fixed ids front back w t)
    (hbuffers : ∀ u ∈ L.objects, u.isBuffer = true → u.buffer outcomes = front u)
    (hhonours : L.honours fixed ids outcomes c o = true) (hids : ids ≤ drawLimit)
    (hdrawn : (Device.aftermath (c.template.mapHandles a) w t o).2.1.map.drawn ≤ ids) :
    Follows fixed ids L front back c o (Device.aftermath (c.template.mapHandles a) w t o) := by
  obtain ⟨template, source, out⟩ := c
  unfold honours at hhonours
  obtain ⟨hzero, hhonours⟩ := Bool.and_eq_true_iff.1 hhonours
  have hzero : 0 ∉ template.produced o := by
    intro hmem
    rw [List.contains_iff_mem.2 hmem] at hzero
    exact Bool.false_ne_true hzero
  -- a call that ends nothing leaves the ledger as it is before the answer
  have hsame : ∀ {gone : List Obj}, gone = [] → (L.retire gone).Fits fixed ids front back w t →
      L.Fits fixed ids front back w t := by
    rintro _ rfl hfits
    rw [retire_nil] at hfits
    exact hfits
  cases template with
  | create info => exact follows_create (hsame rfl h) hzero hids hdrawn
  | destroy kind n => exact follows_destroy hpasses h
  | releaseConfiguration n => exact follows_release hpasses h
  | resetDescriptorPool n flags => exact follows_reset hpasses h
  | allocateSets pool layouts => exact follows_allocateSets hpasses (hsame rfl h) hzero hids hdrawn
  | freeSets pool sets => exact follows_freeSets hpasses h
  | allocateCommandBuffers pool level count =>
    obtain ⟨hfirst, hunused⟩ := Bool.and_eq_true_iff.1 hhonours
    obtain ⟨hnodup, hapart⟩ := Bool.and_eq_true_iff.1 hfirst
    refine follows_allocateBuffers hpasses (hsame rfl h) hzero (of_decide_eq_true hnodup)
      (fun k hk => List.all_eq_true.1 hapart k hk) fun u hu hnot hbuffer hmem => ?_
    have hother := List.all_eq_true.1 hunused u hu
    rw [isAlive_iff.2 ⟨hu, hnot⟩, hbuffer, hbuffers u hu hbuffer, List.contains_iff_mem.2 hmem]
      at hother
    exact Bool.false_ne_true hother
  | freeCommandBuffers pool buffers => exact follows_freeBuffers hpasses hL h
  | getSwapchainImages swapchain =>
    exact follows_images hpasses (hsame rfl h) hzero (List.isPrefixOf_iff_prefix.1 hhonours) hids
      hdrawn
  | updateSets | beginRenderPass | beginCommandBuffer | acquireNextImage | present
  | labelObject =>
    refine follows_of_fits rfl ?_
    rw [Device.aftermath_of_unwrapped rfl rfl]
    exact h
  | _ => exact absurd hcovered Bool.false_ne_true

end Calls

end Ledger

end HandleLayer
