import HandleLayer.Proofs.Ledger
import HandleLayer.Proofs.Resemblance

/-!
# What comes of an answer

While handles are wrapped, the next layer is asked with real handles, and its answer
decides what becomes of the surrogates: some are removed, others are minted and shown to
the application in place of the handles of the next layer.  Apart from that nothing is
done that the next layer could see.

## Main definitions

* `DeviceRequest.removed`, `DeviceRequest.unwrapped` — the surrogates that an answer
  removes, and the handles that it brings surrogates for.
* `DeviceRequest.shown` — what stands in the first output slots instead of handles of the
  next layer.
* `Tracked.after` — the children that are known after an answer.
* `Device.aftermath` — what the application gets, and the surrogates and the children
  after an answer.

## Main results

* `Device.answers_serve` — the part of a call that can be skipped hands the request down,
  and makes of the answer what `Device.aftermath` says.
* `Device.wrapped_perform` — **while handles are wrapped, a call is passed on as it is
  meant.**
-/

namespace HandleLayer

variable {σ : Type}

/-! ### What becomes of surrogates -/

namespace DeviceRequest

/-- The surrogates that are removed after an answer. -/
def removed (t : Tracked) (o : Outcome) : DeviceRequest → List Handle
  | destroy .descriptorPool h => (t.setsOf h).toList ++ [h]
  | destroy .swapchain h => h :: t.imagesOf h
  | destroy _ h => [h]
  | releaseConfiguration h => if o.1 = .success then [h] else []
  | resetDescriptorPool pool _ => if o.1 = .success then (t.setsOf pool).toList else []
  | freeSets _ sets => if o.1 = .success then sets.toList else []
  | _ => []

/-- The real handles that get surrogates after an answer. -/
def unwrapped (t : Tracked) (o : Outcome) : DeviceRequest → List Handle
  | create info => (create info).produced o
  | allocateSets pool layouts => (allocateSets pool layouts).produced o
  | getSwapchainImages swapchain =>
    ((getSwapchainImages swapchain).produced o).drop (t.imagesOf swapchain).length
  | _ => []

/-- What the application finds in its first output slots instead of handles of the next
layer, after the surrogates `hs` were minted. -/
def shown (t : Tracked) (hs : List Handle) (o : Outcome) : DeviceRequest → List Handle
  | create _ => hs
  | allocateSets .. => hs
  | getSwapchainImages swapchain =>
    if o.1.reports then (t.imagesOf swapchain ++ hs).take o.2.count.toNat else []
  | _ => []

/-- Of what is remembered, only the secondary command buffers matter. -/
theorem resolve_congr {r : DeviceRequest} (hr : r.isCovered = true) (w : Wrapper)
    {t t' : Shadows} (h : t'.secondaries = t.secondaries) : r.resolve w t' = r.resolve w t := by
  cases r with
  | beginCommandBuffer =>
    unfold resolve resolveWrapped
    rw [h]
  | create | destroy | releaseConfiguration | resetDescriptorPool | allocateSets | freeSets
  | updateSets | beginRenderPass | allocateCommandBuffers | freeCommandBuffers
  | getSwapchainImages | acquireNextImage | present | labelObject => rfl
  | _ => exact absurd hr Bool.false_ne_true

/-- What goes before a request is brought before the validation objects does not matter
for it. -/
theorem resolve_spared (r : DeviceRequest) (w : Wrapper) (t : Tracked) :
    r.resolve w (t.spared r).toShadows = r.resolve w t.toShadows := by
  cases r with
  | destroy kind => cases kind <;> rfl
  | _ => rfl

end DeviceRequest

/-- What is kept after an answer, and after the surrogates `hs` were minted. -/
def Tracked.after (t : Tracked) (hs : List Handle) (o : Outcome) : DeviceRequest → Tracked
  | .destroy .descriptorPool pool => t.forgetPool pool
  | .destroy .swapchain swapchain => t.forgetSwapchain swapchain
  | .resetDescriptorPool pool _ => if o.1 = .success then t.clearSets pool else t
  | .allocateSets pool _ => if o.1 = .success then t.addSets pool hs else t
  | .freeSets pool sets => if o.1 = .success then t.removeSets pool sets.toList else t
  | .allocateCommandBuffers pool level count =>
    if o.1 = .success ∧ level = .secondary then
      t.addSecondaries pool (o.2.first count.toNat)
    else t
  | .freeCommandBuffers _ buffers => t.removeSecondaries buffers.toList
  | .getSwapchainImages swapchain =>
    if o.2.slots.isSome = true ∧ o.1.reports = true then
      t.setImages swapchain (t.imagesOf swapchain ++ hs)
    else t
  | _ => t

/-- The outcome with other handles in the first output slots. -/
def Outcome.present (hs : List Handle) (o : Outcome) : Outcome :=
  (o.1, o.2.present hs)

theorem Outcome.present_eq_self {hs : List Handle} {o : Outcome}
    (h : o.2.slots.map (overwrite · hs) = o.2.slots) : Outcome.present hs o = o := by
  unfold Outcome.present Outputs.present
  rw [h]

theorem Outcome.present_nil (o : Outcome) : Outcome.present [] o = o := by
  refine Outcome.present_eq_self ?_
  cases o.2.slots with
  | none => rfl
  | some slots => exact congrArg some (overlay_nil_right slots)

theorem Outcome.slot_of_prefix {hs : List Handle} {o : Outcome} (hhs : hs <+: o.2.slots.getD [])
    {i : Nat} {h : Handle} (hi : hs[i]? = some h) : o.slot i = h := by
  obtain ⟨rest, hrest⟩ := hhs
  have hlt : i < hs.length := (List.getElem?_eq_some_iff.1 hi).1
  unfold Outcome.slot
  rw [← hrest, List.getElem?_append_left hlt, hi]
  rfl

theorem Outcome.slot_present {hs : List Handle} {o : Outcome} {i : Nat} {h : Handle}
    (hi : hs[i]? = some h) (hlt : i < (o.2.slots.getD []).length) : (o.present hs).slot i = h := by
  have hlt' : i < hs.length := (List.getElem?_eq_some_iff.1 hi).1
  unfold Outcome.slot Outcome.present Outputs.present
  cases hslots : o.2.slots with
  | none =>
    rw [hslots] at hlt
    exact absurd hlt (Nat.not_lt_zero i)
  | some slots =>
    have hlt : i < slots.length := by
      rw [hslots] at hlt
      exact hlt
    show ((overwrite slots hs)[i]?).getD 0 = h
    rw [getElem?_overwrite hlt hlt', hi]
    rfl

theorem DeviceRequest.produced_prefix (r : DeviceRequest) (o : Outcome) :
    r.produced o <+: o.2.slots.getD [] := by
  cases r with
  | create | allocateSets | allocateCommandBuffers | getSwapchainImages =>
    show (if _ then List.take _ _ else []) <+: _
    split
    · exact List.take_prefix _ _
    · exact List.nil_prefix
  | _ => exact List.nil_prefix

/-- A call that does not report images produces none. -/
theorem DeviceRequest.produced_images_eq_nil {swapchain : Handle} {o : Outcome}
    (hnone : ¬ (o.2.slots.isSome = true ∧ o.1.reports = true)) :
    (getSwapchainImages swapchain).produced o = [] := by
  show (if o.1.reports then o.2.first o.2.count.toNat else []) = []
  split
  · next hreports =>
    cases hslots : o.2.slots with
    | none => exact Outputs.first_of_null hslots _
    | some slots => exact absurd ⟨by rw [hslots]; rfl, hreports⟩ hnone
  · rfl

/-- A handle that is not among those removed means what it meant. -/
theorem Wrapper.unwrap_eraseMany_of_notMem {w : Wrapper} (hw : w.enabled = true)
    {hs : List Handle} {h : Handle} (hh : h ∉ hs) : (w.eraseMany hs).unwrap h = w.unwrap h := by
  have hmap : (w.eraseMany hs).map.unwrap h = w.map.unwrap h := by
    rw [unwrap_eraseMany hw, if_neg fun hmem => hh hmem.1]
  unfold Wrapper.unwrap passes
  rw [enabled_eraseMany, hmap]

namespace Device

/-! ### Requests handed down -/

variable [NextLayer σ]

/-- The state after a request was handed down looks as if it had been handed down
without notices. -/
theorem resembles_sent (hlayer : NextLayer.ReadsValues σ) (r : DeviceRequest)
    (room : Option Nat) (s : Layer Tracked σ) :
    (s.ask (.ofDevice (r.resolve s.world.wrapper s.object.own.toShadows).value) room).Resembles
      (sent r room s) :=
  ((Layer.resembles_see (filterMap_call?_map (fun _ => rfl) _) s).ask hlayer rfl room).2

/-- From the surrogates `w` and the children `t`, a program hands the request `r` down and
makes of the answer what `after` says: the outcome, the surrogates and the children. -/
def Answers (r : DeviceRequest) (out : Outputs) (w : Wrapper) (t : Tracked)
    (p : DeviceM σ (Result × Outputs)) (after : Outcome → Outcome × Wrapper × Tracked) : Prop :=
  ∀ s : Layer Tracked σ, s.world.wrapper = w → s.object.own = t →
    let down := Request.ofDevice (r.resolve w t.toShadows).value
    let o := r.outcome (s.reply down (r.room out)) out
    ∃ u, p.run s = ((after o).1, u) ∧ (s.ask down (r.room out)).Resembles u ∧
      u.world.wrapper = (after o).2.1 ∧ u.object.own = (after o).2.2

variable {r : DeviceRequest} {out : Outputs} {w : Wrapper} {t : Tracked}
  {after : Outcome → Outcome × Wrapper × Tracked}

/-- From the surrogates `w` and the children `t`, a program hands the request `r` down with the
notices about it, and makes of the answer what `after` says. -/
def Responds (r : DeviceRequest) (out : Outputs) (w : Wrapper) (t : Tracked)
    (p : DeviceM σ (Result × Outputs)) (after : Outcome → Outcome × Wrapper × Tracked) : Prop :=
  ∀ s : Layer Tracked σ, s.world.wrapper = w → s.object.own = t →
    let o := r.outcome (answer r (r.room out) s) out
    ∃ u, p.run s = ((after o).1, u) ∧ (sent r (r.room out) s).Resembles u ∧
      u.world.wrapper = (after o).2.1 ∧ u.object.own = (after o).2.2

/-- Notices do not change what the next layer is asked. -/
theorem Responds.answers (hlayer : NextLayer.ReadsValues σ) {p : DeviceM σ (Result × Outputs)}
    (h : Responds r out w t p after) : Answers r out w t p after := by
  rintro s rfl rfl
  obtain ⟨u, hrun, hresembles, hu, hut⟩ := h s rfl rfl
  exact ⟨u, hrun, (resembles_sent hlayer r _ s).trans hresembles, hu, hut⟩

/-- A request handed down, and what follows on the answer. -/
theorem responds_of_relay (hr : r.isCovered = true) (hsilent : r.isSilent = false)
    {f : Result × Outputs → DeviceM σ (Result × Outputs)}
    (hf : ∀ o, Leaves w t (f o) (after o).1 (after o).2.1 (after o).2.2) :
    Responds r out w t (relay r out >>= f) after := by
  rintro s rfl rfl
  have hrelay : (relay r out).run s
      = (r.outcome (answer r (r.room out) s) out, sent r (r.room out) s) := by
    unfold DeviceRequest.outcome DeviceRequest.room
    rw [run_relay_of_isCovered hr, hsilent]
    rfl
  obtain ⟨u, hrun, hresembles, hu, hut⟩ := hf _ (sent r (r.room out) s) (wrapper_sent _ _ s)
    (congrArg Dispatch.own (object_sent _ _ s))
  exact ⟨u, (run_bind_of hrelay f).trans hrun, hresembles, hu, hut⟩

theorem answers_of_relay (hlayer : NextLayer.ReadsValues σ) (hr : r.isCovered = true)
    (hsilent : r.isSilent = false) {f : Result × Outputs → DeviceM σ (Result × Outputs)}
    (hf : ∀ o, Leaves w t (f o) (after o).1 (after o).2.1 (after o).2.2) :
    Answers r out w t (relay r out >>= f) after :=
  (responds_of_relay hr hsilent hf).answers hlayer

/-- From the surrogates `w` and the children `t`, a program hands the request `r` down
without an answer, and comes to the surrogates `w'` and the children `t'`. -/
def Obeys (r : DeviceRequest) (w : Wrapper) (t : Tracked) (p : DeviceM σ Unit) (w' : Wrapper)
    (t' : Tracked) : Prop :=
  ∀ s : Layer Tracked σ, s.world.wrapper = w → s.object.own = t →
    ∃ u, p.run s = ((), u) ∧
      (s.ask (.ofDevice (r.resolve w t.toShadows).value) none).Resembles u ∧
      u.world.wrapper = w' ∧ u.object.own = t'

namespace Obeys

variable {w' w'' : Wrapper} {t' t'' : Tracked}

theorem of_send (hlayer : NextLayer.ReadsValues σ)
    {f : DeviceRequest × Reply → DeviceM σ Unit} (hf : ∀ o, Leaves w t (f o) () w' t') :
    Obeys r w t (send r none >>= f) w' t' := by
  rintro s rfl rfl
  obtain ⟨u, hrun, hresembles, hu, hut⟩ := hf _ (sent r none s) (wrapper_sent _ _ s)
    (congrArg Dispatch.own (object_sent _ _ s))
  exact ⟨u, (run_bind_of (run_send r none s) f).trans hrun,
    (resembles_sent hlayer r none s).trans hresembles, hu, hut⟩

/-- Something that does not change the meaning of the request comes before. -/
theorem preceded (hlayer : NextLayer.ReadsValues σ) {p : DeviceM σ Unit}
    {f : Unit → DeviceM σ Unit} (hp : Leaves w t p () w' t')
    (hsame : (r.resolve w' t'.toShadows).value = (r.resolve w t.toShadows).value)
    (hf : Obeys r w' t' (f ()) w'' t'') : Obeys r w t (p >>= f) w'' t'' := by
  intro s hw ht
  obtain ⟨u, hrun, hresembles, hu, hut⟩ := hp s hw ht
  obtain ⟨v, hrun', hresembles', hv, hvt⟩ := hf u hu hut
  rw [hsame] at hresembles'
  exact ⟨v, (run_bind_of hrun f).trans hrun', (hresembles.ask hlayer rfl none).2.trans hresembles',
    hv, hvt⟩

theorem getOwn_bind {f : Tracked → DeviceM σ Unit} (hf : Obeys r w t (f t) w' t') :
    Obeys r w t (getOwn >>= f) w' t' := by
  rintro s hw rfl
  exact hf s hw rfl

theorem silently (hsilent : r.isSilent = true) {p : DeviceM σ Unit} (hp : Obeys r w t p w' t')
    (hafter : after (.success, out) = ((.success, out), w', t')) :
    Answers r out w t (Device.silently p out : DeviceM σ (Result × Outputs)) after := by
  intro s hw ht
  obtain ⟨u, hrun, hresembles, hu, hut⟩ := hp s hw ht
  unfold Device.silently DeviceRequest.outcome DeviceRequest.room
  rw [run_bind_of hrun, hsilent]
  dsimp only
  rw [if_pos rfl, hafter]
  exact ⟨u, rfl, hresembles, hu, hut⟩

end Obeys

/-- What a request comes to while handles are wrapped, by the answer that is passed on. -/
def aftermath (r : DeviceRequest) (w : Wrapper) (t : Tracked) (o : Outcome) :
    Outcome × Wrapper × Tracked :=
  let minted := (w.eraseMany (r.removed t o)).wrapNewMany (r.unwrapped t o)
  (o.present (r.shown t minted.1 o), minted.2, t.after minted.1 o r)

/-- No surrogates are minted. -/
theorem aftermath_of_unwrapped {o : Outcome} (hunwrapped : r.unwrapped t o = [])
    (hshown : r.shown t [] o = []) :
    aftermath r w t o = (o, w.eraseMany (r.removed t o), t.after [] o r) := by
  unfold aftermath
  rw [hunwrapped]
  show (o.present (r.shown t [] o), _, _) = _
  rw [hshown, Outcome.present_nil]
  rfl

/-- Surrogates are minted and none are removed. -/
theorem aftermath_of_removed {o : Outcome} {reals : List Handle} (hremoved : r.removed t o = [])
    (hunwrapped : r.unwrapped t o = reals) :
    aftermath r w t o
      = (o.present (r.shown t (w.wrapNewMany reals).1 o), (w.wrapNewMany reals).2,
          t.after (w.wrapNewMany reals).1 o r) := by
  unfold aftermath
  rw [hremoved, hunwrapped]
  rfl

/-- An object of any kind is destroyed while handles are wrapped. -/
theorem obeys_destroy (hlayer : NextLayer.ReadsValues σ) (hpools : ∀ pool, pool ∉ t.setsOf pool)
    (hw : w.enabled = true) (kind : Destroyable) (h : Handle) (o : Outcome) :
    Obeys (.destroy kind h) w t (destroy kind h : DeviceM σ Unit)
      (w.eraseMany ((DeviceRequest.destroy kind h).removed t o))
      (t.after [] o (.destroy kind h)) := by
  have hobject : ∀ kind w t, Obeys (.destroy kind h) w t (destroyObject kind h : DeviceM σ Unit)
      (w.erase h) t :=
    fun kind w t => .of_send hlayer fun _ => (Leaves.eraseHandle h).bind (.announceDestroyed _ h)
  cases kind with
  | descriptorPool =>
    have herase : w.eraseMany ((t.setsOf h).toList ++ [h])
        = (w.eraseMany (t.setsOf h).toList).erase h := List.foldl_append
    -- the pool is none of its sets, and is still known when its destruction goes down
    have hpool : (w.eraseMany (t.setsOf h).toList).unwrap h = w.unwrap h :=
      Wrapper.unwrap_eraseMany_of_notMem hw fun hmem => hpools h (Std.ExtTreeSet.mem_toList.1 hmem)
    have hsame : ((DeviceRequest.destroy .descriptorPool h).resolve
          (w.eraseMany (t.setsOf h).toList) (t.forgetPool h).toShadows).value
        = ((DeviceRequest.destroy .descriptorPool h).resolve w t.toShadows).value := by
      unfold DeviceRequest.resolve
      rw [Wrapper.enabled_eraseMany, hw]
      exact congrArg (DeviceRequest.destroy .descriptorPool) hpool
    show Obeys _ w t _ (w.eraseMany ((t.setsOf h).toList ++ [h])) (t.forgetPool h)
    rw [herase]
    exact .getOwn_bind (.preceded hlayer (.modifyOwn _) rfl
      (.preceded hlayer (.dropSets _) hsame (hobject .descriptorPool _ _)))
  | swapchain =>
    refine .getOwn_bind (.preceded hlayer (.modifyOwn _) rfl (.of_send hlayer fun _ => ?_))
    exact (Leaves.eraseHandle h).bind ((Leaves.forM_eraseHandle _).bind
      ((Leaves.forM_announceDestroyed .image _).bind (.announceDestroyed .swapchain h)))
  | _ => exact hobject _ w t

/-! ### Requests that bring surrogates -/

section Surrogates

variable {o : Outcome}

theorem aftermath_create_of_success {info : CreateInfo} {real : Handle} {rest : List Handle}
    (hsuccess : o.1 = .success) (hslots : o.2.slots = some (real :: rest)) :
    aftermath (.create info) w t o
      = ((o.1, { o.2 with slots := some ((w.wrapNew real).1 :: rest) }), (w.wrapNew real).2,
          t) := by
  have hunwrapped : (DeviceRequest.create info).unwrapped t o = [real] := by
    show (if o.1 = .success then o.2.first 1 else []) = [real]
    rw [if_pos hsuccess, Outputs.first, hslots]
    rfl
  refine (aftermath_of_removed rfl hunwrapped).trans ?_
  show ((o.1, { o.2 with slots := o.2.slots.map (overwrite · [(w.wrapNew real).1]) }),
    (w.wrapNew real).2, t) = _
  rw [hslots]
  show ((o.1, { o.2 with slots := some ((w.wrapNew real).1 :: overlay rest []) }), _) = _
  rw [overlay_nil_right]

theorem aftermath_allocateSets_of_success {pool : Handle} {layouts : AppArray Handle}
    (hsuccess : o.1 = .success) :
    aftermath (.allocateSets pool layouts) w t o
      = ((o.1, o.2.present (w.wrapNewMany (o.2.first layouts.count)).1),
          (w.wrapNewMany (o.2.first layouts.count)).2,
          t.addSets pool (w.wrapNewMany (o.2.first layouts.count)).1) := by
  have hunwrapped : (DeviceRequest.allocateSets pool layouts).unwrapped t o
      = o.2.first layouts.count := if_pos hsuccess
  refine (aftermath_of_removed rfl hunwrapped).trans ?_
  dsimp only [Tracked.after]
  rw [if_pos hsuccess]
  rfl

theorem aftermath_allocateSets_of_failure {pool : Handle} {layouts : AppArray Handle}
    (hfailed : ¬ o.1 = .success) : aftermath (.allocateSets pool layouts) w t o = (o, w, t) := by
  have hunwrapped : (DeviceRequest.allocateSets pool layouts).unwrapped t o = [] := if_neg hfailed
  refine (aftermath_of_unwrapped hunwrapped rfl).trans ?_
  dsimp only [Tracked.after]
  rw [if_neg hfailed]
  rfl

/-- Of the images reported, those that are known keep their surrogates. -/
theorem aftermath_images_of_reports {swapchain : Handle} {slots : List Handle}
    (hreports : o.1.reports = true) (hslots : o.2.slots = some slots) :
    let known := t.imagesOf swapchain
    let minted := w.wrapNewMany ((slots.take o.2.count.toNat).drop known.length)
    aftermath (.getSwapchainImages swapchain) w t o
      = ((o.1, { o.2 with
            slots := some (overwrite slots ((known ++ minted.1).take o.2.count.toNat)) }),
          minted.2, t.setImages swapchain (known ++ minted.1)) := by
  intro known minted
  have hunwrapped : (DeviceRequest.getSwapchainImages swapchain).unwrapped t o
      = (slots.take o.2.count.toNat).drop known.length := by
    show (if o.1.reports then o.2.first o.2.count.toNat else []).drop _ = _
    rw [if_pos hreports, Outputs.first, hslots]
    rfl
  refine (aftermath_of_removed rfl hunwrapped).trans ?_
  dsimp only [Tracked.after, DeviceRequest.shown, Outcome.present, Outputs.present]
  rw [if_pos hreports, if_pos ⟨by rw [hslots]; rfl, hreports⟩, hslots]
  rfl

/-- Without an array for images, or without an answer about them, nothing is changed. -/
theorem aftermath_images_of_not {swapchain : Handle}
    (hnot : ¬ (o.2.slots.isSome = true ∧ o.1.reports = true)) :
    aftermath (.getSwapchainImages swapchain) w t o = (o, w, t) := by
  have hafter : t.after [] o (.getSwapchainImages swapchain) = t := if_neg hnot
  have hproduced : (DeviceRequest.getSwapchainImages swapchain).produced o = [] :=
    DeviceRequest.produced_images_eq_nil hnot
  have hunwrapped : (DeviceRequest.getSwapchainImages swapchain).unwrapped t o = [] := by
    show List.drop _ (DeviceRequest.produced _ _) = []
    rw [hproduced, List.drop_nil]
  -- known images are shown only where there is an array for them
  have hpresent : o.present (DeviceRequest.shown t [] o (.getSwapchainImages swapchain)) = o := by
    cases hslots : o.2.slots with
    | none => exact Outcome.present_eq_self (by rw [hslots]; rfl)
    | some slots =>
      have hshown : DeviceRequest.shown t [] o (.getSwapchainImages swapchain) = [] :=
        if_neg fun hreports => hnot ⟨by rw [hslots]; rfl, hreports⟩
      rw [hshown, Outcome.present_nil]
  refine (aftermath_of_removed rfl hunwrapped).trans ?_
  show (o.present (DeviceRequest.shown t [] o (.getSwapchainImages swapchain)), w,
    t.after [] o (.getSwapchainImages swapchain)) = _
  rw [hafter, hpresent]

theorem answers_create (hlayer : NextLayer.ReadsValues σ) {info : CreateInfo}
    (hr : (DeviceRequest.create info).isCovered = true) :
    Answers (.create info) out w t
      (serve (.create info) out : DeviceM σ (Result × Outputs)) (aftermath (.create info) w t) := by
  refine answers_of_relay hlayer hr rfl fun ⟨result, out⟩ => ?_
  have hnone : (DeviceRequest.create info).produced (result, out) = [] →
      Leaves w t (pure (result, out) : DeviceM σ (Result × Outputs))
        (aftermath (.create info) w t (result, out)).1
        (aftermath (.create info) w t (result, out)).2.1
        (aftermath (.create info) w t (result, out)).2.2 :=
    fun hproduced => .of_eq (.pure _) (aftermath_of_unwrapped hproduced rfl)
  dsimp only
  split
  · next real rest hslots =>
    split
    · next hsuccess =>
      exact .of_eq ((Leaves.wrapNew real).bind ((Leaves.announceCreated _ _).bind (.pure _)))
        (aftermath_create_of_success hsuccess hslots)
    · next hfailed => exact hnone (if_neg hfailed)
  · next hslots =>
    -- there is no room for a handle
    refine hnone ?_
    show (if result = .success then out.first 1 else []) = []
    unfold Outputs.first
    cases hcases : out.slots with
    | none => exact ite_self _
    | some slots =>
      cases slots with
      | nil => exact ite_self _
      | cons real rest => exact absurd hcases (hslots real rest)

theorem answers_allocateSets (hlayer : NextLayer.ReadsValues σ) (hw : w.enabled = true)
    (pool : Handle) (layouts : AppArray Handle) :
    Answers (.allocateSets pool layouts) out w t
      (serve (.allocateSets pool layouts) out : DeviceM σ (Result × Outputs))
      (aftermath (.allocateSets pool layouts) w t) := by
  refine answers_of_relay hlayer rfl rfl fun ⟨result, out⟩ => .wrapping_bind hw ?_
  by_cases hsuccess : result = .success
  · rw [if_pos ⟨rfl, hsuccess⟩]
    exact .of_eq ((Leaves.wrapNewMany _).bind ((Leaves.modifyOwn _).bind
      ((Leaves.forM_announceCreated _ _).bind (.pure _))))
      (aftermath_allocateSets_of_success hsuccess)
  · rw [if_neg fun h => hsuccess h.2]
    exact .of_eq (.pure _) (aftermath_allocateSets_of_failure hsuccess)

/-- What a query for the images of a swapchain comes to. -/
theorem responds_getSwapchainImages (hw : w.enabled = true) (swapchain : Handle) :
    Responds (.getSwapchainImages swapchain) out w t
      (serve (.getSwapchainImages swapchain) out : DeviceM σ (Result × Outputs))
      (aftermath (.getSwapchainImages swapchain) w t) := by
  refine responds_of_relay rfl rfl fun ⟨result, out⟩ => ?_
  dsimp only
  split
  · next hslots =>
    exact .of_eq (.pure _) (aftermath_images_of_not fun h => by simp [hslots] at h)
  · next slots hslots =>
    refine .wrapping_bind hw ?_
    by_cases hreports : result.reports = true
    · rw [if_pos ⟨rfl, hreports⟩]
      exact .of_eq (.getOwn_bind ((Leaves.wrapNewMany _).bind ((Leaves.modifyOwn _).bind
        ((Leaves.forM_announceCreated _ _).bind (.pure _)))))
        (aftermath_images_of_reports hreports hslots)
    · rw [if_neg fun h => hreports h.2]
      exact .of_eq (.pure _) (aftermath_images_of_not fun h => hreports h.2)

end Surrogates

/-! ### Whole calls -/

/-- The part of a call that can be skipped, while handles are wrapped. -/
theorem answers_serve (hlayer : NextLayer.ReadsValues σ) (hr : r.isCovered = true)
    (hpools : ∀ pool, pool ∉ t.setsOf pool) (hw : w.enabled = true) :
    Answers r out w t (serve r out : DeviceM σ (Result × Outputs)) (aftermath r w t) := by
  cases r with
  | create info => exact answers_create hlayer hr
  | destroy kind h =>
    exact (obeys_destroy hlayer hpools hw kind h (.success, out)).silently rfl
      (aftermath_of_unwrapped rfl rfl)
  | releaseConfiguration h =>
    refine answers_of_relay hlayer hr rfl fun ⟨result, out⟩ =>
      Leaves.of_eq ?_ (aftermath_of_unwrapped rfl rfl)
    dsimp only [DeviceRequest.removed]
    split
    · exact (Leaves.eraseHandle h).bind ((Leaves.announceDestroyed _ h).bind (.pure _))
    · exact .pure _
  | resetDescriptorPool pool flags =>
    refine answers_of_relay hlayer hr rfl fun ⟨result, out⟩ =>
      Leaves.of_eq ?_ (aftermath_of_unwrapped rfl rfl)
    dsimp only [DeviceRequest.removed, Tracked.after]
    split
    · exact .getOwn_bind ((Leaves.modifyOwn _).bind ((Leaves.dropSets _).bind (.pure _)))
    · exact .pure _
  | allocateSets pool layouts => exact answers_allocateSets hlayer hw pool layouts
  | freeSets pool sets =>
    refine answers_of_relay hlayer hr rfl fun ⟨result, out⟩ =>
      Leaves.of_eq (.wrapping_bind hw ?_) (aftermath_of_unwrapped rfl rfl)
    dsimp only [DeviceRequest.removed, Tracked.after]
    by_cases hsuccess : result = .success
    · rw [if_pos ⟨rfl, hsuccess⟩, if_pos hsuccess, if_pos hsuccess]
      exact (Leaves.modifyOwn _).bind ((Leaves.dropSets _).bind (.pure _))
    · rw [if_neg fun h => hsuccess h.2, if_neg hsuccess, if_neg hsuccess]
      exact .pure _
  | allocateCommandBuffers pool level count =>
    refine answers_of_relay hlayer hr rfl fun ⟨result, out⟩ =>
      Leaves.of_eq ?_ (aftermath_of_unwrapped rfl rfl)
    dsimp only [DeviceRequest.removed, Tracked.after]
    split
    · exact (Leaves.modifyOwn _).bind (.pure _)
    · exact .pure _
  | freeCommandBuffers pool buffers =>
    exact (Obeys.of_send hlayer fun _ => .modifyOwn _).silently rfl
      (aftermath_of_unwrapped rfl rfl)
  | getSwapchainImages swapchain =>
    exact (responds_getSwapchainImages hw swapchain).answers hlayer
  -- these only hand the request down
  | updateSets | beginRenderPass | beginCommandBuffer | acquireNextImage | present
  | labelObject =>
    exact answers_of_relay hlayer hr rfl fun o =>
      Leaves.of_eq (.pure o) (aftermath_of_unwrapped rfl rfl)
  | _ => exact absurd hr Bool.false_ne_true

/-- **While handles are wrapped, a call is passed on as it is meant**, unless it is
skipped.  What goes before the request is brought before the validation objects does not
matter for it. -/
theorem wrapped_perform (hlayer : NextLayer.ReadsValues σ) (hr : r.isCovered = true)
    (out : Outputs) {s : Layer Tracked σ}
    (hpools : ∀ pool, pool ∉ (s.object.own.spared r).setsOf pool)
    (hs : s.world.wrapper.enabled = true)
    (hveto : s.object.registry.chain.vetoes s.world.behaviour r.command = false) :
    let down := Request.ofDevice (r.resolve s.world.wrapper s.object.own.toShadows).value
    let o := r.outcome (s.reply down (r.room out)) out
    ∃ begun t, (s.object.own.spared r).Matches begun ∧
      (perform r out).run s = ((aftermath r s.world.wrapper begun o).1, t) ∧
      (s.ask down (r.room out)).Resembles t ∧
      t.world.wrapper = (aftermath r s.world.wrapper begun o).2.1 ∧
      (aftermath r s.world.wrapper begun o).2.2.Matches t.object.own := by
  intro down o
  obtain ⟨s', t, hbefore, hafter, hrun⟩ := exists_run_perform hveto out
  have hwrapper : s'.world.wrapper = s.world.wrapper := hbefore.wrapper
  have hresembles : s.Resembles s' := (Layer.resembles_withOwn _ s).trans hbefore.resembles
  have hpools' : ∀ pool, pool ∉ s'.object.own.setsOf pool := fun pool => by
    rw [hbefore.own.setsOf]
    exact hpools pool
  have hanswers : Answers r out s'.world.wrapper s'.object.own
      (serve r out : DeviceM σ (Result × Outputs)) _ :=
    answers_serve hlayer hr hpools' (hwrapper ▸ hs)
  obtain ⟨u, hserve, hasked, hu, hut⟩ := hanswers s' rfl rfl
  -- what was forgotten before the request went down is not used to resolve it
  have hdown : r.resolve s'.world.wrapper s'.object.own.toShadows
      = r.resolve s.world.wrapper s.object.own.toShadows := by
    rw [hwrapper]
    exact (DeviceRequest.resolve_congr hr _ hbefore.own.secondaries).trans
      (DeviceRequest.resolve_spared r _ _)
  obtain ⟨hreply, hask⟩ := hresembles.ask hlayer (rfl : down.flat = down.flat) (r.room out)
  rw [hdown] at hserve hasked hu hut
  rw [hreply, hwrapper] at hserve hu hut
  rw [hserve] at hafter hrun
  refine ⟨s'.object.own, t, hbefore.own, hrun, hask.trans (hasked.trans hafter.resembles), ?_, ?_⟩
  · rw [hafter.wrapper]
    exact hu
  · rw [← hut]
    exact hafter.own

end Device

end HandleLayer
