import HandleLayer.Proofs.Announcements

/-!
# Lifetimes of handles

A call to a device either creates or destroys.  It makes exactly those surrogates come to
life that it announces as created, or lets exactly those die that it announces as
destroyed.

## Main definitions

* `Layer.Known` — everything that a device tracks as a child was announced with its type.
* `Keeps` — programs for a device that keep this up and do no more than a relation allows.
* `DeviceRequest.creates?`, `DeviceRequest.named` — the type of the objects that a request
  creates, and the handles that it names as the ones to go.

## Main results

* `Device.step_mint`, `Device.step_remove` — surrogates come and go with announcements.
* `Device.keeps_perform` — **a call to a device only creates or only destroys.**
-/

namespace HandleLayer

variable {σ α β : Type}

/-! ### Programs for a device -/

/-- Handles are wrapped, and everything that the device tracks as a child was announced
with its type; null handles are not announced. -/
structure Layer.Known (s : Layer Tracked σ) : Prop where
  wrapping : s.world.wrapper.enabled = true
  sets : ∀ pool h, h ∈ s.object.own.setsOf pool → h ≠ 0 →
    (.descriptorSet, h) ∈ createdIn s.world.events
  images : ∀ swapchain h, h ∈ s.object.own.imagesOf swapchain → h ≠ 0 →
    (.image, h) ∈ createdIn s.world.events

/-- Children only go, and more is announced. -/
theorem Layer.Known.of_grows {s s' : Layer Tracked σ} (hs : s.Known)
    (henabled : s'.world.wrapper.enabled = s.world.wrapper.enabled)
    (hevents : ∃ es, s'.world.events = s.world.events ++ es)
    (hsets : ∀ pool h, h ∈ s'.object.own.setsOf pool → h ∈ s.object.own.setsOf pool)
    (himages : ∀ swapchain h, h ∈ s'.object.own.imagesOf swapchain →
      h ∈ s.object.own.imagesOf swapchain) : s'.Known := by
  obtain ⟨es, hevents⟩ := hevents
  refine ⟨henabled.trans hs.wrapping, fun pool h hmem hzero => ?_,
    fun swapchain h hmem hzero => ?_⟩
  · rw [hevents, createdIn_append]
    exact List.mem_append_left _ (hs.sets pool h (hsets pool h hmem) hzero)
  · rw [hevents, createdIn_append]
    exact List.mem_append_left _ (hs.images swapchain h (himages swapchain h hmem) hzero)

/-- Relations that allow for quiet programs, and for one program after another. -/
class Composable (R : World σ → World σ → Prop) : Prop where
  of_quiet : ∀ {w w'}, Quiet w w' → R w w'
  trans : ∀ {w w' w''}, R w w' → R w' w'' → R w w''

instance : Composable (Quiet (σ := σ)) := ⟨id, Quiet.trans⟩

instance (type : ObjectType) : Composable (Births (σ := σ) type) :=
  ⟨Quiet.births, Births.trans⟩

instance (named : List (ObjectType × Handle)) : Composable (Deaths (σ := σ) named) :=
  ⟨Quiet.deaths, Deaths.trans⟩

/-- From one state to a later one the children stay known, and no more happens than a
relation allows. -/
def Step (R : World σ → World σ → Prop) (s s' : Layer Tracked σ) : Prop :=
  s'.Known ∧ R s.world s'.world

/-- A program that does no more than a relation allows, if all children are known. -/
def Keeps (R : World σ → World σ → Prop) (p : DeviceM σ α) : Prop :=
  ∀ s : Layer Tracked σ, s.Known → Step R s (p.run s).2

variable {R : World σ → World σ → Prop} [Composable R]

/-- Nothing that matters has changed. -/
theorem step_of_quiet {s s' : Layer Tracked σ} (hs : s.Known)
    (hown : s'.object.own = s.object.own) (h : Quiet s.world s'.world) : Step R s s' := by
  refine ⟨?_, Composable.of_quiet h⟩
  obtain ⟨hwrapper, es, hevents, -⟩ := h
  refine hs.of_grows (by rw [hwrapper]) ⟨es, hevents⟩ ?_ ?_
  · rw [hown]
    exact fun _ _ hmem => hmem
  · rw [hown]
    exact fun _ _ hmem => hmem

theorem Step.trans {s s' s'' : Layer Tracked σ} (h : Step R s s') (h' : Step R s' s'') :
    Step R s s'' :=
  ⟨h'.1, Composable.trans h.2 h'.2⟩

namespace Keeps

theorem pure (a : α) : Keeps R (Pure.pure a : DeviceM σ α) :=
  fun s hs => step_of_quiet hs rfl (.refl s.world)

theorem bind {p : DeviceM σ α} {f : α → DeviceM σ β} (hp : Keeps R p)
    (hf : ∀ a, Keeps R (f a)) : Keeps R (p >>= f) := by
  intro s hs
  have hfirst := hp s hs
  exact hfirst.trans (hf (p.run s).1 (p.run s).2 hfirst.1)

omit [Composable R] in
theorem ite {c : Prop} [Decidable c] {p q : DeviceM σ α} (hp : Keeps R p) (hq : Keeps R q) :
    Keeps R (if c then p else q) := by
  split
  · exact hp
  · exact hq

theorem forM {f : β → DeviceM σ Unit} (hf : ∀ b, Keeps R (f b)) (bs : List β) :
    Keeps R (bs.forM f) := by
  induction bs with
  | nil => exact pure ()
  | cons b bs ih => exact (hf b).bind fun _ => ih

theorem getOwn : Keeps R (HandleLayer.getOwn : DeviceM σ Tracked) :=
  fun s hs => step_of_quiet hs rfl (.refl s.world)

theorem wrapping : Keeps R (HandleLayer.wrapping : DeviceM σ Bool) :=
  fun s hs => step_of_quiet hs rfl (.refl s.world)

theorem validationChain : Keeps R (HandleLayer.validationChain : DeviceM σ ValidationChain) :=
  fun s hs => step_of_quiet hs rfl (.refl s.world)

/-- Events without announcements. -/
theorem emit {es : List Event} (hes : Silent es) :
    Keeps R (HandleLayer.emit es : DeviceM σ Unit) :=
  fun s hs => step_of_quiet hs rfl ⟨rfl, es, World.events_see es s.world, hes⟩

theorem note (notices : List Notice) : Keeps R (HandleLayer.note notices : DeviceM σ Unit) :=
  emit (silent_map (fun _ => rfl) (fun _ => rfl) notices)

theorem tell (objects : List ValidationObject) (hook : Hook) :
    Keeps R (HandleLayer.tell objects hook : DeviceM σ Unit) :=
  forM (fun _ => emit ⟨rfl, rfl⟩) objects

theorem modifyBatch (batch : BatchId) (f : Batch → Batch) :
    Keeps R (HandleLayer.modifyBatch batch f : DeviceM σ Unit) :=
  fun _ hs => step_of_quiet hs rfl ⟨rfl, [], (List.append_nil _).symm, silent_nil⟩

/-- Changes of what the device keeps by which children only go. -/
theorem modifyOwn {f : Tracked → Tracked}
    (hsets : ∀ t pool h, h ∈ (f t).setsOf pool → h ∈ t.setsOf pool)
    (himages : ∀ t swapchain h, h ∈ (f t).imagesOf swapchain → h ∈ t.imagesOf swapchain) :
    Keeps R (HandleLayer.modifyOwn f : DeviceM σ Unit) := by
  intro s hs
  refine ⟨hs.of_grows rfl ⟨[], (List.append_nil _).symm⟩ (hsets _) (himages _), ?_⟩
  exact Composable.of_quiet (.refl s.world)

theorem askToSkip (chain : ValidationChain) (command : Command) :
    Keeps R (HandleLayer.askToSkip chain command : DeviceM σ Bool) := by
  intro s hs
  rw [run_askToSkip]
  exact emit (silent_toldEach _ _) s hs

theorem intercept {command : Command} {skipped : α} {body : DeviceM σ (Result × α)}
    (hbody : Keeps R body) : Keeps R (HandleLayer.intercept command skipped body) := by
  refine validationChain.bind fun chain => (askToSkip chain command).bind fun skip => ?_
  refine ite (pure _) ((tell _ _).bind fun _ => hbody.bind fun p => ?_)
  exact (tell _ _).bind fun _ => pure _

end Keeps

/-! ### What a request is about -/

/-- The type of the objects that a request may bring into being. -/
def DeviceRequest.creates? : DeviceRequest → Option ObjectType
  | .create info => some info.objectType
  | .allocateSets .. => some .descriptorSet
  | .getSwapchainImages _ => some .image
  | .createGraphicsPipelines .. => some .pipeline
  | .createComputePipelines .. => some .pipeline
  | .createRayTracingPipelines .. => some .pipeline
  | .joinOperation _ => some .pipeline
  | .queryOperation _ => some .pipeline
  | _ => none

/-- The handles that a request names as the ones to go, with their types. -/
def DeviceRequest.named : DeviceRequest → List (ObjectType × Handle)
  | .destroy kind h => [(kind.objectType, h)]
  | .releaseConfiguration h => [(.performanceConfiguration, h)]
  | .freeSets _ sets => sets.toList.map (.descriptorSet, ·)
  | _ => []

/-- A call creates objects of one type, or it destroys objects that it names and their
children. -/
def Turn (type? : Option ObjectType) (named : List (ObjectType × Handle)) :
    World σ → World σ → Prop :=
  match type? with
  | some type => Births type
  | none => Deaths named

instance (type? : Option ObjectType) (named : List (ObjectType × Handle)) :
    Composable (Turn (σ := σ) type? named) := by
  cases type?
  · exact inferInstanceAs (Composable (Deaths named))
  · exact inferInstanceAs (Composable (Births _))

/-! ### Parts of calls -/

namespace Device

/-- Minting surrogates for objects of one type, keeping some record of them, and
announcing them. -/
theorem step_mint {s : Layer Tracked σ} (hs : s.Known) (type : ObjectType)
    (reals : List Handle) (own : Tracked)
    (hsets : ∀ pool h, h ∈ own.setsOf pool → h ∈ s.object.own.setsOf pool ∨
      type = .descriptorSet ∧ h ∈ (s.world.wrapper.wrapNewMany reals).1)
    (himages : ∀ swapchain h, h ∈ own.imagesOf swapchain →
      h ∈ s.object.own.imagesOf swapchain ∨
        type = .image ∧ h ∈ (s.world.wrapper.wrapNewMany reals).1) :
    Step (Births type) s
      (((s.withWrapper (s.world.wrapper.wrapNewMany reals).2).withOwn own).see
        (births s.object.registry.chain.objects type
          (s.world.wrapper.wrapNewMany reals).1)) := by
  have hbirths := births_wrapNewMany type hs.wrapping
    s.object.registry.chain.objects reals
  refine ⟨?_, hbirths⟩
  obtain ⟨es, ns, hby⟩ := hbirths
  -- what is announced now is all that was minted
  have hnew : ∀ h, h ∈ (s.world.wrapper.wrapNewMany reals).1 → h ≠ 0 →
      (type, h) ∈ createdIn (births s.object.registry.chain.objects type
        (s.world.wrapper.wrapNewMany reals).1) := by
    intro h hmem hzero
    rw [createdIn_births]
    exact List.mem_map.2 ⟨h, List.mem_filter.2 ⟨hmem, by simpa using hzero⟩, rfl⟩
  refine ⟨hby.enabled_eq.trans hs.wrapping, fun pool h hmem hzero => ?_,
    fun swapchain h hmem hzero => ?_⟩
  · refine (World.events_see _ _).symm ▸ ?_
    rw [createdIn_append]
    rcases hsets pool h hmem with hold | ⟨rfl, hmint⟩
    · exact List.mem_append_left _ (hs.sets pool h hold hzero)
    · exact List.mem_append_right _ (hnew h hmint hzero)
  · refine (World.events_see _ _).symm ▸ ?_
    rw [createdIn_append]
    rcases himages swapchain h hmem with hold | ⟨rfl, hmint⟩
    · exact List.mem_append_left _ (hs.images swapchain h hold hzero)
    · exact List.mem_append_right _ (hnew h hmint hzero)

/-- Minting one surrogate and announcing it. -/
theorem keeps_mint (type : ObjectType) (real : Handle) {f : Handle → DeviceM σ α}
    (hf : ∀ h, Keeps (Births type) (f h)) :
    Keeps (Births type) (do
      let h ← wrapNew real
      announceCreated type h
      f h) := by
  intro s hs
  rw [run_bind_of (run_wrapNew real s), run_bind_of (run_announceCreated type _ _)]
  have hmint := step_mint hs type [real] s.object.own (fun _ _ h => .inl h)
    (fun _ _ h => .inl h)
  exact hmint.trans (hf _ _ hmint.1)

/-- Removing surrogates and announcing them, each named or known as a child. -/
theorem step_remove {named : List (ObjectType × Handle)} {s : Layer Tracked σ}
    (hs : s.Known) (gone : List Handle) {es : List Event} (hcreated : createdIn es = [])
    (hdestroyed : ∀ h, h ∈ (destroyedIn es).map Prod.snd ↔ h ∈ gone ∧ h ≠ 0)
    (htyped : ∀ p ∈ destroyedIn es, p ∈ named ∨ p ∈ createdIn s.world.events) :
    Step (Deaths named) s ((s.withWrapper (s.world.wrapper.eraseMany gone)).see es) := by
  have hdeaths := deaths_eraseMany hs.wrapping gone hcreated hdestroyed htyped
  refine ⟨?_, hdeaths⟩
  obtain ⟨es', hby⟩ := hdeaths
  exact hs.of_grows hby.enabled_eq ⟨es', hby.events_eq⟩ (fun _ _ h => h) fun _ _ h => h

/-- Removing one surrogate that is named and announcing it. -/
theorem keeps_remove {named : List (ObjectType × Handle)} {type : ObjectType} {h : Handle}
    (hmem : (type, h) ∈ named) :
    Keeps (Deaths named) (do
      eraseHandle h
      announceDestroyed type h : DeviceM σ Unit) := by
  intro s hs
  rw [run_bind_of (run_eraseHandle h s), run_announceDestroyed]
  refine step_remove hs [h] (createdIn_deaths _ _ _) (fun k => ?_) fun p hp => ?_
  · exact mem_map_destroyedIn_deaths
  · obtain ⟨rfl, hp, -⟩ := mem_destroyedIn_deaths.1 hp
    obtain rfl := List.mem_singleton.1 hp
    exact .inl hmem

/-- Dropping descriptor sets, each named or known as a child. -/
theorem step_dropSets (named : List (ObjectType × Handle)) {s : Layer Tracked σ}
    (hs : s.Known) {sets : List Handle}
    (htyped : ∀ h ∈ sets, h ≠ 0 → (.descriptorSet, h) ∈ named ∨
      (.descriptorSet, h) ∈ createdIn s.world.events) :
    Step (Deaths named) s ((dropSets sets).run s).2 := by
  rw [run_dropSets]
  refine step_remove hs sets (createdIn_deaths _ _ _) (fun k => mem_map_destroyedIn_deaths)
    fun p hp => ?_
  obtain ⟨htype, hmem, hzero⟩ := mem_destroyedIn_deaths.1 hp
  obtain ⟨type, h⟩ := p
  obtain rfl := htype
  exact htyped h hmem hzero

/-! ### Calls to a device -/

variable [NextLayer σ]

theorem keeps_send (r : DeviceRequest) (room : Option Nat) :
    Keeps R (send r room : DeviceM σ (DeviceRequest × Reply)) := by
  intro s hs
  rw [run_send]
  exact step_of_quiet hs (congrArg Dispatch.own (object_sent r room s)) (quiet_sent r room s)

theorem keeps_relay (r : DeviceRequest) (out : Outputs) :
    Keeps R (relay r out : DeviceM σ (Result × Outputs)) :=
  (keeps_send r _).bind fun _ => .pure _

theorem keeps_createObject (info : CreateInfo) (out : Outputs) :
    Keeps (Births info.objectType) (createObject info out : DeviceM σ (Result × Outputs)) := by
  refine (keeps_relay _ _).bind fun ⟨result, out⟩ => ?_
  dsimp only
  split
  · exact .ite (keeps_mint _ _ fun _ => .pure _) (.pure _)
  · exact .pure _

theorem keeps_destroyObject {named : List (ObjectType × Handle)} {kind : Destroyable}
    {h : Handle} (hmem : (kind.objectType, h) ∈ named) :
    Keeps (Deaths named) (destroyObject kind h : DeviceM σ Unit) :=
  (keeps_send _ _).bind fun _ => keeps_remove hmem

/-- A pool is destroyed with the sets known as its children. -/
theorem keeps_destroyDescriptorPool {named : List (ObjectType × Handle)} {pool : Handle}
    (hmem : (.descriptorPool, pool) ∈ named) :
    Keeps (Deaths named) (destroyDescriptorPool pool : DeviceM σ Unit) := by
  have hforget : Keeps (Deaths named)
      (modifyOwn (Tracked.forgetPool pool) : DeviceM σ Unit) := by
    refine Keeps.modifyOwn (fun t pool' h hh => ?_) fun _ _ _ h => h
    rw [Tracked.setsOf_forgetPool] at hh
    split at hh
    · simp at hh
    · exact hh
  intro s hs
  have hforgotten := hforget s hs
  have hdropped := step_dropSets named hforgotten.1 fun h hh hzero =>
    .inr (hs.sets pool h (Std.ExtTreeSet.mem_toList.1 hh) hzero)
  exact hforgotten.trans (hdropped.trans (keeps_destroyObject hmem _ hdropped.1))

omit [NextLayer σ] in
/-- A swapchain is removed and announced with its images, each known as a child. -/
theorem step_dropSwapchain {named : List (ObjectType × Handle)} {swapchain : Handle}
    (hmem : (.swapchain, swapchain) ∈ named) {s : Layer Tracked σ} (hs : s.Known)
    {images : List Handle}
    (himages : ∀ h ∈ images, h ≠ 0 → (.image, h) ∈ createdIn s.world.events) :
    Step (Deaths named) s ((do
      eraseHandle swapchain
      images.forM eraseHandle
      images.forM (announceDestroyed .image)
      announceDestroyed .swapchain swapchain : DeviceM σ Unit).run s).2 := by
  rw [run_bind_of (run_eraseHandle _ _), run_bind_of (run_forM_eraseHandle _ _),
    run_bind_of (run_forM_announceDestroyed _ _ _), run_announceDestroyed, Layer.see_see]
  refine step_remove hs (swapchain :: images) ?_ (fun h => ?_) fun p hp => ?_
  · rw [createdIn_append, createdIn_deaths, createdIn_deaths]
    rfl
  · rw [destroyedIn_append, List.map_append, List.mem_append, mem_map_destroyedIn_deaths,
      mem_map_destroyedIn_deaths, List.mem_singleton, List.mem_cons, or_and_right]
    exact or_comm
  · rw [destroyedIn_append] at hp
    rcases List.mem_append.1 hp with hp | hp
    · obtain ⟨htype, hp, hzero⟩ := mem_destroyedIn_deaths.1 hp
      obtain ⟨type, h⟩ := p
      obtain rfl := htype
      exact .inr (himages h hp hzero)
    · obtain ⟨htype, hp, -⟩ := mem_destroyedIn_deaths.1 hp
      obtain ⟨type, h⟩ := p
      obtain rfl := htype
      obtain rfl := List.mem_singleton.1 hp
      exact .inl hmem

/-- A swapchain is destroyed with the images known as its children. -/
theorem keeps_destroySwapchain {named : List (ObjectType × Handle)} {swapchain : Handle}
    (hmem : (.swapchain, swapchain) ∈ named) :
    Keeps (Deaths named) (destroySwapchain swapchain : DeviceM σ Unit) := by
  have hforget : Keeps (Deaths named)
      (modifyOwn (Tracked.forgetSwapchain swapchain) : DeviceM σ Unit) := by
    refine Keeps.modifyOwn (fun _ _ _ h => h) fun t swapchain' h hh => ?_
    rw [Tracked.imagesOf_forgetSwapchain] at hh
    split at hh
    · simp at hh
    · exact hh
  have hsend : Keeps (Deaths named)
      (send (.destroy .swapchain swapchain) none : DeviceM σ (DeviceRequest × Reply)) :=
    keeps_send _ _
  intro s hs
  have hforgotten := hforget s hs
  have hsent := hsend _ hforgotten.1
  -- the images are still known after the call to the next layer
  refine hforgotten.trans (hsent.trans (step_dropSwapchain hmem hsent.1 fun h hh hzero => ?_))
  obtain ⟨es, hby⟩ := hsent.2
  rw [hby.events_eq, createdIn_append]
  exact List.mem_append_left _ (hs.images swapchain h hh hzero)

theorem keeps_destroy {named : List (ObjectType × Handle)} {kind : Destroyable} {h : Handle}
    (hmem : (kind.objectType, h) ∈ named) :
    Keeps (Deaths named) (destroy kind h : DeviceM σ Unit) := by
  unfold destroy
  split
  · exact keeps_destroyDescriptorPool hmem
  · exact keeps_destroySwapchain hmem
  · exact keeps_destroyObject hmem

theorem keeps_releaseConfiguration {named : List (ObjectType × Handle)} {h : Handle}
    (hmem : (.performanceConfiguration, h) ∈ named) (out : Outputs) :
    Keeps (Deaths named) (releaseConfiguration h out : DeviceM σ (Result × Outputs)) := by
  refine (keeps_relay _ _).bind fun ⟨result, out⟩ => ?_
  dsimp only
  split
  · exact (keeps_remove hmem).bind fun _ => .pure _
  · exact .pure _

theorem keeps_resetDescriptorPool (named : List (ObjectType × Handle)) (pool : Handle)
    (flags : UInt32) (out : Outputs) :
    Keeps (Deaths named) (resetDescriptorPool pool flags out : DeviceM σ (Result × Outputs)) := by
  refine (keeps_relay _ _).bind fun ⟨result, out⟩ => ?_
  dsimp only
  split
  · have hclear : Keeps (Deaths named)
        (modifyOwn (Tracked.clearSets pool) : DeviceM σ Unit) := by
      refine Keeps.modifyOwn (fun t pool' h hh => ?_) fun _ _ _ h => h
      rw [Tracked.setsOf_clearSets] at hh
      split at hh
      · simp at hh
      · exact hh
    intro s hs
    have hcleared := hclear s hs
    exact hcleared.trans (step_dropSets named hcleared.1 fun h hh hzero =>
      .inr (hs.sets pool h (Std.ExtTreeSet.mem_toList.1 hh) hzero))
  · exact .pure _

theorem keeps_freeSets {named : List (ObjectType × Handle)} (pool : Handle)
    {sets : AppArray Handle} (hmem : ∀ h ∈ sets.toList, (.descriptorSet, h) ∈ named)
    (out : Outputs) :
    Keeps (Deaths named) (freeSets pool sets out : DeviceM σ (Result × Outputs)) := by
  refine (keeps_relay _ _).bind fun ⟨result, out⟩ => Keeps.wrapping.bind fun wraps => ?_
  dsimp only
  split
  · have hremove : Keeps (Deaths named)
        (modifyOwn (Tracked.removeSets pool sets.toList) : DeviceM σ Unit) :=
      Keeps.modifyOwn (fun t pool' h hh => ((t.mem_setsOf_removeSets _ _ _ _).1 hh).1)
        fun _ _ _ h => h
    intro s hs
    have hremoved := hremove s hs
    exact hremoved.trans (step_dropSets named hremoved.1 fun h hh _ => .inl (hmem h hh))
  · exact .pure _

theorem keeps_allocateSets (pool : Handle) (layouts : AppArray Handle) (out : Outputs) :
    Keeps (Births .descriptorSet)
      (allocateSets pool layouts out : DeviceM σ (Result × Outputs)) := by
  refine (keeps_relay _ _).bind fun ⟨result, out⟩ => Keeps.wrapping.bind fun wraps => ?_
  split
  · intro s hs
    rw [run_bind_of (run_wrapNewMany _ s), run_bind_of (run_modifyOwn _ _),
      run_bind_of (run_forM_announceCreated _ _ _)]
    refine step_mint hs .descriptorSet _ _ (fun pool' h hh => ?_) fun _ _ hh => .inl hh
    rw [Tracked.setsOf_addSets] at hh
    split at hh
    · next heq =>
      subst heq
      rcases Std.ExtTreeSet.mem_insertMany_list.1 hh with hold | hnew
      · exact .inl hold
      · exact .inr ⟨rfl, List.contains_iff_mem.1 hnew⟩
    · exact .inl hh
  · exact .pure _

theorem keeps_getSwapchainImages (swapchain : Handle) (out : Outputs) :
    Keeps (Births .image)
      (getSwapchainImages swapchain out : DeviceM σ (Result × Outputs)) := by
  refine (keeps_relay _ _).bind fun ⟨result, out⟩ => ?_
  dsimp only
  split
  · exact .pure _
  · next slots =>
    refine Keeps.wrapping.bind fun wraps => ?_
    split
    · intro s hs
      rw [run_bind_of (run_getOwn s), run_bind_of (run_wrapNewMany _ s),
        run_bind_of (run_modifyOwn _ _), run_bind_of (run_forM_announceCreated _ _ _)]
      refine step_mint hs .image _ _ (fun _ _ hh => .inl hh) fun swapchain' h hh => ?_
      rw [Tracked.imagesOf_setImages] at hh
      split at hh
      · next heq =>
        subst heq
        rcases List.mem_append.1 hh with hold | hnew
        · exact .inl hold
        · exact .inr ⟨rfl, hnew⟩
      · exact .inl hh
    · exact .pure _

theorem keeps_allocateCommandBuffers (pool : Handle) (level : BufferLevel) (count : UInt32)
    (out : Outputs) :
    Keeps R (allocateCommandBuffers pool level count out : DeviceM σ (Result × Outputs)) := by
  refine (keeps_relay _ _).bind fun ⟨result, out⟩ => ?_
  refine .ite (Keeps.bind ?_ fun _ => .pure _) (.pure _)
  exact .modifyOwn (fun _ _ _ h => h) fun _ _ _ h => h

theorem keeps_freeCommandBuffers (pool : Handle) (buffers : AppArray Handle) :
    Keeps R (freeCommandBuffers pool buffers : DeviceM σ Unit) :=
  (keeps_send _ _).bind fun _ => .modifyOwn (fun _ _ _ h => h) fun _ _ _ h => h

/-! ### Pipelines and deferred operations -/

omit [NextLayer σ] in
/-- A change of the deferred operations alone. -/
theorem keeps_modifyDeferred (f : DeferredOperations → DeferredOperations) :
    Keeps R (modifyOwn (Tracked.modifyDeferred f) : DeviceM σ Unit) :=
  .modifyOwn (fun _ _ _ h => h) fun _ _ _ h => h

omit [NextLayer σ] in
theorem keeps_publishPipelines (reals : List Handle) :
    Keeps (Births .pipeline) (publishPipelines reals : DeviceM σ (List Handle)) := by
  induction reals with
  | nil => exact .pure _
  | cons real reals ih => exact keeps_mint .pipeline real fun h => ih.bind fun hs => .pure _

omit [NextLayer σ] in
theorem keeps_publishOutputs (count : Nat) (out : Outputs) :
    Keeps (Births .pipeline) (publishOutputs count out : DeviceM σ Outputs) :=
  (keeps_publishPipelines _).bind fun _ => .pure _

theorem keeps_createPipelines (r : DeviceRequest) (count : Nat) (out : Outputs) :
    Keeps (Births .pipeline) (createPipelines r count out : DeviceM σ (Result × Outputs)) := by
  refine (keeps_relay _ _).bind fun ⟨result, out⟩ => Keeps.wrapping.bind fun wraps => ?_
  exact .ite ((keeps_publishOutputs _ _).bind fun _ => .pure _) (.pure _)

theorem keeps_createRayTracingPipelines (batch : BatchId) (operation cache : Handle)
    (infos : AppArray RayTracingInfo) (out : Outputs) :
    Keeps (Births .pipeline)
      (createRayTracingPipelines batch operation cache infos out :
        DeviceM σ (Result × Outputs)) := by
  refine Keeps.wrapping.bind fun wraps => .ite ?_ (keeps_relay _ _)
  refine (keeps_send _ _).bind fun ⟨sent, reply⟩ => ?_
  refine .ite ?_ ((keeps_publishOutputs _ _).bind fun _ => .pure _)
  -- deferred pipelines are not published yet
  exact Keeps.validationChain.bind fun chain => (keeps_modifyDeferred _).bind fun _ => .pure _

theorem keeps_buildStructures (operation : Handle) (infos : AppArray BuildInfo)
    (ranges : Option (List (List BuildRange))) (out : Outputs) :
    Keeps R (buildStructures operation infos ranges out : DeviceM σ (Result × Outputs)) := by
  refine (keeps_send _ _).bind fun ⟨sent, reply⟩ => Keeps.wrapping.bind fun wraps => ?_
  dsimp only
  split
  · exact (keeps_modifyDeferred _).bind fun _ => .pure _
  · exact .pure _

omit [NextLayer σ] in
theorem keeps_receive (w : LateWrite) : Keeps R (receive w : DeviceM σ Unit) := by
  refine Keeps.wrapping.bind fun wraps => .ite ?_ (.modifyBatch _ _)
  refine (keeps_modifyDeferred _).bind fun _ => Keeps.getOwn.bind fun t => ?_
  split
  · exact .pure _
  · exact .modifyBatch _ _

omit [NextLayer σ] in
theorem keeps_runCompletion (c : Completion) :
    Keeps (Births .pipeline) (runCompletion c : DeviceM σ (List Handle)) := by
  rcases c with inputs | ⟨batch, produced⟩
  · refine Keeps.bind ?_ fun _ => (Keeps.emit ⟨rfl, rfl⟩).bind fun _ => .pure _
    rcases inputs with ⟨batch, copies⟩ | sent | number
    · exact .modifyBatch _ _
    · exact .pure _
    · exact .pure _
  · exact (keeps_publishPipelines _).bind fun _ => (Keeps.modifyBatch _ _).bind fun _ => .pure _

omit [NextLayer σ] in
theorem keeps_runCompletions (cs : List Completion) :
    Keeps (Births .pipeline) (runCompletions cs : DeviceM σ (List Handle)) := by
  induction cs with
  | nil => exact .pure _
  | cons c cs ih => exact (keeps_runCompletion c).bind fun _ => ih.bind fun _ => .pure _

omit [NextLayer σ] in
theorem keeps_completeOperation (operation : Handle) (result : Result) :
    Keeps (Births .pipeline) (completeOperation operation result : DeviceM σ Unit) := by
  refine .ite (Keeps.getOwn.bind fun t => ?_) (.pure _)
  split
  · exact .pure _
  · refine (keeps_modifyDeferred _).bind fun _ => (keeps_runCompletions _).bind fun hs => ?_
    exact .forM (fun kind => Keeps.validationChain.bind fun chain => .tell _ _) _

theorem keeps_awaitOperation (r : DeviceRequest) (operation : Handle) (out : Outputs) :
    Keeps (Births .pipeline)
      (awaitOperation r operation out : DeviceM σ (Result × Outputs)) := by
  refine (keeps_send _ _).bind fun ⟨sent, reply⟩ => ?_
  refine (Keeps.forM keeps_receive _).bind fun _ => ?_
  exact (keeps_completeOperation _ _).bind fun _ => .pure _

/-! ### Whole calls -/

theorem keeps_serve (r : DeviceRequest) (out : Outputs) :
    Keeps (Turn r.creates? r.named) (serve r out : DeviceM σ (Result × Outputs)) := by
  cases r with
  | create info => exact keeps_createObject info out
  | destroy kind h => exact (keeps_destroy List.mem_cons_self).bind fun _ => .pure _
  | releaseConfiguration h => exact keeps_releaseConfiguration List.mem_cons_self out
  | resetDescriptorPool pool flags => exact keeps_resetDescriptorPool _ pool flags out
  | allocateSets pool layouts => exact keeps_allocateSets pool layouts out
  | freeSets pool sets =>
    exact keeps_freeSets pool (fun h hh => List.mem_map.2 ⟨h, hh, rfl⟩) out
  | createGraphicsPipelines cache infos => exact keeps_createPipelines _ _ out
  | createComputePipelines cache infos => exact keeps_createPipelines _ _ out
  | createRayTracingPipelines batch operation cache infos =>
    exact keeps_createRayTracingPipelines batch operation cache infos out
  | allocateCommandBuffers pool level count =>
    exact keeps_allocateCommandBuffers pool level count out
  | freeCommandBuffers pool buffers =>
    exact (keeps_freeCommandBuffers pool buffers).bind fun _ => .pure _
  | getSwapchainImages swapchain => exact keeps_getSwapchainImages swapchain out
  | joinOperation operation => exact keeps_awaitOperation _ operation out
  | queryOperation operation => exact keeps_awaitOperation _ operation out
  | buildStructures operation infos ranges =>
    exact keeps_buildStructures operation infos ranges out
  | _ => exact keeps_relay _ out

omit [NextLayer σ] in
theorem keeps_prepare (r : DeviceRequest) : Keeps R (prepare r : DeviceM σ Unit) := by
  unfold prepare
  split
  · exact .modifyOwn (fun _ _ _ h => h) fun _ _ _ h => h
  · exact .modifyOwn (fun _ _ _ h => h) fun _ _ _ h => h
  · exact .modifyOwn (fun _ _ _ h => h) fun _ _ _ h => h
  · refine Keeps.getOwn.bind fun t => ?_
    split
    · exact .pure _
    · refine (keeps_modifyDeferred _).bind fun _ => (Keeps.note _).bind fun _ => ?_
      exact .emit (silent_map (fun _ => rfl) (fun _ => rfl) _)
  · exact .pure _

omit [NextLayer σ] in
theorem keeps_conclude (r : DeviceRequest) (result : Result) (out : Outputs) :
    Keeps R (conclude r result out : DeviceM σ Unit) := by
  unfold conclude
  split
  · next info =>
    refine Keeps.wrapping.bind fun wraps => .ite ?_ (.pure _)
    split
    · -- what is remembered of an object has no children in it
      refine .modifyOwn (fun t pool h hh => ?_) fun t swapchain h hh => ?_
      · cases info <;> exact hh
      · cases info <;> exact hh
    · exact .pure _
  · exact fun _ hs => step_of_quiet hs rfl ⟨rfl, [], (List.append_nil _).symm, silent_nil⟩
  · exact .pure _

/-- **A call to a device only creates or only destroys.** -/
theorem keeps_perform (r : DeviceRequest) (out : Outputs) :
    Keeps (Turn r.creates? r.named) (perform r out : DeviceM σ (Result × Outputs)) := by
  refine (keeps_prepare r).bind fun _ => (Keeps.intercept (keeps_serve r out)).bind fun p => ?_
  exact (keeps_conclude r _ _).bind fun _ => .pure _

end Device

end HandleLayer
