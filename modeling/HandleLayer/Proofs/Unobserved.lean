import HandleLayer.Proofs.Programs
import HandleLayer.System

/-!
# What no call depends on

What was seen of earlier calls, and what the storage of the application holds, never has
an influence on a call: states that differ in nothing else lead to the same answers, the
same events and again to such states.

## Main definitions

* `World.Agrees`, `Layer.Agrees`, `System.Agrees` — states that differ in nothing else.
* `Blind` — a program that does the same from such states.
* `System.BehavesAs` — the same for everything that may happen to a system.

## Main results

* `Device.blind_perform`, `Instance.blind_perform` — **every call is blind.**
* `System.Agrees.act`, `System.Agrees.run` — systems that agree stay so.
* `System.Agrees.behavesAs` — **systems that agree behave alike for ever.**
-/

namespace HandleLayer

variable {δ σ α β : Type}

/-! ### States that agree -/

/-- What is shared, compared without the trace and without the application's storage. -/
structure World.Agrees (w w' : World σ) : Prop where
  wrapper : w.wrapper = w'.wrapper
  behaviour : w.behaviour = w'.behaviour
  below : w.below = w'.below

/-- The same object, and worlds that agree. -/
structure Layer.Agrees (s s' : Layer δ σ) : Prop where
  object : s.object = s'.object
  world : s.world.Agrees s'.world

/-- The same events are seen in both worlds. -/
def World.SeesSame (before before' after after' : World σ) : Prop :=
  ∃ events : List Event,
    after.trace = before.trace ++ events ∧ after'.trace = before'.trace ++ events

/-- A program that answers alike from states that agree, lets the same be seen, and
ends in states that agree. -/
def Blind (p : CallM δ σ α) : Prop :=
  ∀ s s' : Layer δ σ, s.Agrees s' →
    (p.run s).1 = (p.run s').1 ∧ (p.run s).2.Agrees (p.run s').2 ∧
      s.world.SeesSame s'.world (p.run s).2.world (p.run s').2.world

namespace World.SeesSame

theorem refl (w w' : World σ) : w.SeesSame w' w w' := ⟨[], by simp, by simp⟩

theorem trans {a a' b b' c c' : World σ} (hab : a.SeesSame a' b b') (hbc : b.SeesSame b' c c') :
    a.SeesSame a' c c' := by
  obtain ⟨events, h, h'⟩ := hab
  obtain ⟨events', k, k'⟩ := hbc
  refine ⟨events ++ events', ?_, ?_⟩
  · rw [k, h]
    exact Array.ext' (by simp)
  · rw [k', h']
    exact Array.ext' (by simp)

end World.SeesSame

namespace Blind

/-! ### Parts of programs -/

theorem pure (a : α) : Blind (Pure.pure a : CallM δ σ α) :=
  fun s s' h => ⟨rfl, h, .refl s.world s'.world⟩

theorem bind {p : CallM δ σ α} {f : α → CallM δ σ β} (hp : Blind p)
    (hf : ∀ a, Blind (f a)) : Blind (p >>= f) := by
  intro s s' h
  obtain ⟨hanswer, hstate, hseen⟩ := hp s s' h
  rw [run_bind, run_bind, ← hanswer]
  obtain ⟨hanswer', hstate', hseen'⟩ := hf (p.run s).1 _ _ hstate
  exact ⟨hanswer', hstate', hseen.trans hseen'⟩

/-- A look at the state, as far as states that agree have it in common. -/
theorem get_bind {k : Layer δ σ → CallM δ σ β} (hsame : ∀ s s', s.Agrees s' → k s = k s')
    (hk : ∀ s, Blind (k s)) : Blind (get >>= k) := by
  intro s s' h
  have hrun : ∀ t : Layer δ σ, (get >>= k).run t = (k t).run t := fun t => rfl
  rw [hrun, hrun, ← hsame s s' h]
  exact hk s s s' h

theorem ite {c : Prop} [Decidable c] {p q : CallM δ σ α} (hp : Blind p) (hq : Blind q) :
    Blind (if c then p else q) := by
  split
  · exact hp
  · exact hq

theorem forM {f : β → CallM δ σ Unit} (hf : ∀ b, Blind (f b)) (bs : List β) :
    Blind (bs.forM f) := by
  induction bs with
  | nil => exact pure ()
  | cons b bs ih => exact (hf b).bind fun _ => ih

theorem foldlM {f : α → β → CallM δ σ α} (hf : ∀ a b, Blind (f a b)) (bs : List β) (a : α) :
    Blind (bs.foldlM f a) := by
  induction bs generalizing a with
  | nil => exact pure a
  | cons b bs ih => exact (hf a b).bind ih

/-- A change of what is shared that keeps agreement and is not seen. -/
theorem modifyWorld {f : World σ → World σ}
    (hf : ∀ w w', w.Agrees w' → (f w).Agrees (f w')) (htrace : ∀ w, (f w).trace = w.trace) :
    Blind (HandleLayer.modifyWorld f : CallM δ σ Unit) := by
  intro s s' h
  refine ⟨rfl, ⟨h.object, hf _ _ h.world⟩, [], ?_, ?_⟩
  · rw [run_modifyWorld, htrace]
    simp
  · rw [run_modifyWorld, htrace]
    simp

theorem emit (events : List Event) : Blind (HandleLayer.emit events : CallM δ σ Unit) :=
  fun _ _ h => ⟨rfl, ⟨h.object, h.world.wrapper, h.world.behaviour, h.world.below⟩,
    events, rfl, rfl⟩

theorem modifyOwn (f : δ → δ) : Blind (HandleLayer.modifyOwn f : CallM δ σ Unit) := by
  intro s s' h
  refine ⟨rfl, ⟨?_, h.world⟩, .refl s.world s'.world⟩
  rw [run_modifyOwn, run_modifyOwn, h.object]

theorem modifyBatch (batch : BatchId) (f : Batch → Batch) :
    Blind (HandleLayer.modifyBatch batch f : CallM δ σ Unit) :=
  modifyWorld (fun _ _ h => ⟨h.wrapper, h.behaviour, h.below⟩) fun _ => rfl

theorem getOwn : Blind (HandleLayer.getOwn : CallM δ σ δ) :=
  get_bind (fun s s' h => by rw [h.object]) fun _ => pure _

theorem wrapping : Blind (HandleLayer.wrapping : CallM δ σ Bool) :=
  get_bind (fun s s' h => by rw [h.world.wrapper]) fun _ => pure _

theorem validationChain :
    Blind (HandleLayer.validationChain : CallM δ σ ValidationChain) :=
  get_bind (fun s s' h => by rw [h.object]) fun _ => pure _

/-! ### Surrogates and announcements -/

theorem setWrapper (wrapper : Wrapper) :
    Blind (HandleLayer.modifyWorld fun w => { w with wrapper } : CallM δ σ Unit) :=
  modifyWorld (fun _ _ h => ⟨rfl, h.behaviour, h.below⟩) fun _ => rfl

theorem setBelow (below : σ) :
    Blind (HandleLayer.modifyWorld fun w => { w with below } : CallM δ σ Unit) :=
  modifyWorld (fun _ _ h => ⟨h.wrapper, h.behaviour, rfl⟩) fun _ => rfl

theorem wrapNew (real : Handle) : Blind (HandleLayer.wrapNew real : CallM δ σ Handle) :=
  get_bind (fun s s' h => by rw [h.world.wrapper]) fun _ => (setWrapper _).bind fun _ => pure _

theorem wrapNewMany (reals : List Handle) :
    Blind (HandleLayer.wrapNewMany reals : CallM δ σ (List Handle)) :=
  get_bind (fun s s' h => by rw [h.world.wrapper]) fun _ => (setWrapper _).bind fun _ => pure _

theorem wrapDisplayMany (reals : List Handle) :
    Blind (HandleLayer.wrapDisplayMany reals : CallM δ σ (List Handle)) :=
  get_bind (fun s s' h => by rw [h.world.wrapper]) fun _ => (setWrapper _).bind fun _ => pure _

theorem eraseHandle (h : Handle) : Blind (HandleLayer.eraseHandle h : CallM δ σ Unit) :=
  modifyWorld (fun _ _ hw => ⟨by rw [hw.wrapper], hw.behaviour, hw.below⟩) fun _ => rfl

theorem tell (objects : List ValidationObject) (hook : Hook) :
    Blind (HandleLayer.tell objects hook : CallM δ σ Unit) :=
  forM (fun _ => emit _) objects

theorem announce (hook : Hook) : Blind (HandleLayer.announce hook : CallM δ σ Unit) :=
  (emit _).bind fun _ => validationChain.bind fun _ => tell _ _

theorem announceCreated (type : ObjectType) (h : Handle) :
    Blind (HandleLayer.announceCreated type h : CallM δ σ Unit) :=
  ite (announce _) (pure ())

theorem announceDestroyed (type : ObjectType) (h : Handle) :
    Blind (HandleLayer.announceDestroyed type h : CallM δ σ Unit) :=
  ite (announce _) (pure ())

theorem ask (command : Command) (object : ValidationObject) :
    Blind (HandleLayer.ask command object : CallM δ σ Bool) :=
  (emit _).bind fun _ => get_bind (fun s s' h => by rw [h.world.behaviour]) fun _ => pure _

theorem askToSkip (chain : ValidationChain) (command : Command) :
    Blind (HandleLayer.askToSkip chain command : CallM δ σ Bool) :=
  foldlM (fun _ o => (ask command o).bind fun _ => pure _) _ _

theorem intercept {command : Command} {skipped : α} {body : CallM δ σ (Result × α)}
    (hbody : Blind body) : Blind (HandleLayer.intercept command skipped body) := by
  refine validationChain.bind fun chain => (askToSkip chain command).bind fun skip => ?_
  refine ite (pure _) ((tell _ _).bind fun _ => hbody.bind fun p => ?_)
  exact (tell _ _).bind fun _ => pure _

theorem note (notices : List Notice) : Blind (HandleLayer.note notices : CallM δ σ Unit) :=
  emit _

variable [NextLayer σ]

theorem forward (request : Request) (room : Option Nat) :
    Blind (HandleLayer.forward request room : CallM δ σ Reply) := by
  refine get_bind (fun s s' h => by rw [h.object, h.world.below]) fun s => ite ?_ (pure _)
  exact (emit _).bind fun _ => (setBelow _).bind fun _ => pure _

end Blind

/-! ### Calls to a device -/

namespace Device

variable [NextLayer σ]

theorem blind_send (r : DeviceRequest) (room : Option Nat) :
    Blind (send r room : DeviceM σ (DeviceRequest × Reply)) := by
  refine Blind.get_bind (fun s s' h => by rw [h.object, h.world.wrapper]) fun s => ?_
  exact (Blind.note _).bind fun _ => (Blind.forward _ _).bind fun _ => .pure _

theorem blind_relay (r : DeviceRequest) (out : Outputs) :
    Blind (relay r out : DeviceM σ (Result × Outputs)) :=
  (blind_send r _).bind fun _ => .pure _

theorem blind_createObject (info : CreateInfo) (out : Outputs) :
    Blind (createObject info out : DeviceM σ (Result × Outputs)) := by
  refine (blind_relay _ _).bind fun ⟨result, out⟩ => ?_
  dsimp only
  split
  · refine .ite ((Blind.wrapNew _).bind fun _ => ?_) (.pure _)
    exact (Blind.announceCreated _ _).bind fun _ => .pure _
  · exact .pure _

theorem blind_destroyObject (kind : Destroyable) (h : Handle) :
    Blind (destroyObject kind h : DeviceM σ Unit) :=
  (blind_send _ _).bind fun _ => (Blind.eraseHandle h).bind fun _ => .announceDestroyed _ _

omit [NextLayer σ] in
theorem blind_dropSets (sets : List Handle) : Blind (dropSets sets : DeviceM σ Unit) :=
  .forM (fun h => (Blind.eraseHandle h).bind fun _ => .announceDestroyed _ _) sets

theorem blind_destroyDescriptorPool (pool : Handle) :
    Blind (destroyDescriptorPool pool : DeviceM σ Unit) :=
  Blind.getOwn.bind fun _ => (Blind.modifyOwn _).bind fun _ =>
    (blind_dropSets _).bind fun _ => blind_destroyObject _ _

theorem blind_destroySwapchain (swapchain : Handle) :
    Blind (destroySwapchain swapchain : DeviceM σ Unit) := by
  refine Blind.getOwn.bind fun _ => (Blind.modifyOwn _).bind fun _ => ?_
  refine (blind_send _ _).bind fun _ => (Blind.eraseHandle _).bind fun _ => ?_
  refine (Blind.forM Blind.eraseHandle _).bind fun _ => ?_
  exact (Blind.forM (Blind.announceDestroyed _) _).bind fun _ => .announceDestroyed _ _

theorem blind_destroy (kind : Destroyable) (h : Handle) :
    Blind (destroy kind h : DeviceM σ Unit) := by
  cases kind with
  | descriptorPool => exact blind_destroyDescriptorPool h
  | swapchain => exact blind_destroySwapchain h
  | _ => exact blind_destroyObject _ h

theorem blind_releaseConfiguration (h : Handle) (out : Outputs) :
    Blind (releaseConfiguration h out : DeviceM σ (Result × Outputs)) := by
  refine (blind_relay _ _).bind fun ⟨result, out⟩ => .ite ?_ (.pure _)
  exact (Blind.eraseHandle h).bind fun _ => (Blind.announceDestroyed _ _).bind fun _ => .pure _

theorem blind_resetDescriptorPool (pool : Handle) (flags : UInt32) (out : Outputs) :
    Blind (resetDescriptorPool pool flags out : DeviceM σ (Result × Outputs)) := by
  refine (blind_relay _ _).bind fun ⟨result, out⟩ => .ite ?_ (.pure _)
  exact Blind.getOwn.bind fun _ => (Blind.modifyOwn _).bind fun _ =>
    (blind_dropSets _).bind fun _ => .pure _

theorem blind_allocateSets (pool : Handle) (layouts : AppArray Handle) (out : Outputs) :
    Blind (allocateSets pool layouts out : DeviceM σ (Result × Outputs)) := by
  refine (blind_relay _ _).bind fun ⟨result, out⟩ => Blind.wrapping.bind fun _ => ?_
  refine .ite ((Blind.wrapNewMany _).bind fun sets => (Blind.modifyOwn _).bind fun _ => ?_)
    (.pure _)
  exact (Blind.forM (Blind.announceCreated _) sets).bind fun _ => .pure _

theorem blind_freeSets (pool : Handle) (sets : AppArray Handle) (out : Outputs) :
    Blind (freeSets pool sets out : DeviceM σ (Result × Outputs)) := by
  refine (blind_relay _ _).bind fun ⟨result, out⟩ => Blind.wrapping.bind fun _ => ?_
  refine .ite ((Blind.modifyOwn _).bind fun _ => ?_) (.pure _)
  exact (blind_dropSets _).bind fun _ => .pure _

theorem blind_allocateCommandBuffers (pool : Handle) (level : BufferLevel) (count : UInt32)
    (out : Outputs) :
    Blind (allocateCommandBuffers pool level count out : DeviceM σ (Result × Outputs)) := by
  refine (blind_relay _ _).bind fun ⟨result, out⟩ => .ite ?_ (.pure _)
  exact (Blind.modifyOwn _).bind fun _ => .pure _

theorem blind_freeCommandBuffers (pool : Handle) (buffers : AppArray Handle) :
    Blind (freeCommandBuffers pool buffers : DeviceM σ Unit) :=
  (blind_send _ _).bind fun _ => .modifyOwn _

theorem blind_getSwapchainImages (swapchain : Handle) (out : Outputs) :
    Blind (getSwapchainImages swapchain out : DeviceM σ (Result × Outputs)) := by
  refine (blind_relay _ _).bind fun ⟨result, out⟩ => ?_
  dsimp only
  split
  · exact .pure _
  · refine Blind.wrapping.bind fun _ => .ite (Blind.getOwn.bind fun _ => ?_) (.pure _)
    refine (Blind.wrapNewMany _).bind fun fresh => (Blind.modifyOwn _).bind fun _ => ?_
    exact (Blind.forM (Blind.announceCreated _) fresh).bind fun _ => .pure _

omit [NextLayer σ] in
theorem blind_publishPipelines (reals : List Handle) :
    Blind (publishPipelines reals : DeviceM σ (List Handle)) := by
  induction reals with
  | nil => exact .pure _
  | cons real reals ih =>
    refine (Blind.wrapNew real).bind fun h => (Blind.announceCreated _ h).bind fun _ => ?_
    exact ih.bind fun _ => .pure _

omit [NextLayer σ] in
theorem blind_publishOutputs (count : Nat) (out : Outputs) :
    Blind (publishOutputs count out : DeviceM σ Outputs) :=
  (blind_publishPipelines _).bind fun _ => .pure _

theorem blind_createPipelines (r : DeviceRequest) (count : Nat) (out : Outputs) :
    Blind (createPipelines r count out : DeviceM σ (Result × Outputs)) := by
  refine (blind_relay _ _).bind fun ⟨result, out⟩ => Blind.wrapping.bind fun _ => ?_
  exact .ite ((blind_publishOutputs count out).bind fun _ => .pure _) (.pure _)

theorem blind_createRayTracingPipelines (batch : BatchId) (operation cache : Handle)
    (infos : AppArray RayTracingInfo) (out : Outputs) :
    Blind (createRayTracingPipelines batch operation cache infos out :
      DeviceM σ (Result × Outputs)) := by
  refine Blind.wrapping.bind fun _ => .ite ?_ (blind_relay _ _)
  refine (blind_send _ _).bind fun ⟨sent, reply⟩ => .ite ?_ ?_
  · exact Blind.validationChain.bind fun _ => (Blind.modifyOwn _).bind fun _ => .pure _
  · exact (blind_publishOutputs _ _).bind fun _ => .pure _

theorem blind_buildStructures (operation : Handle) (infos : AppArray BuildInfo)
    (ranges : Option (List (List BuildRange))) (out : Outputs) :
    Blind (buildStructures operation infos ranges out : DeviceM σ (Result × Outputs)) := by
  refine (blind_send _ _).bind fun ⟨sent, reply⟩ => Blind.wrapping.bind fun _ => ?_
  exact .ite ((Blind.modifyOwn _).bind fun _ => .pure _) (.pure _)

omit [NextLayer σ] in
theorem blind_receive (w : LateWrite) : Blind (receive w : DeviceM σ Unit) := by
  refine Blind.wrapping.bind fun _ => .ite ?_ (.modifyBatch _ _)
  refine (Blind.modifyOwn _).bind fun _ => Blind.getOwn.bind fun own => ?_
  split
  · exact .pure _
  · exact .modifyBatch _ _

omit [NextLayer σ] in
theorem blind_runCompletions (cs : List Completion) :
    Blind (runCompletions cs : DeviceM σ (List Handle)) := by
  have hone : ∀ c, Blind (runCompletion c : DeviceM σ (List Handle)) := by
    intro c
    cases c with
    | release inputs =>
      refine Blind.bind ?_ fun _ => (Blind.emit _).bind fun _ => .pure _
      cases inputs with
      | chains batch copies => exact .modifyBatch _ _
      | _ => exact .pure _
    | publish batch produced =>
      exact (blind_publishPipelines produced).bind fun _ => (Blind.modifyBatch _ _).bind
        fun _ => .pure _
  induction cs with
  | nil => exact .pure _
  | cons c cs ih => exact (hone c).bind fun _ => ih.bind fun _ => .pure _

omit [NextLayer σ] in
theorem blind_completeOperation (operation : Handle) (result : Result) :
    Blind (completeOperation operation result : DeviceM σ Unit) := by
  refine .ite (Blind.getOwn.bind fun own => ?_) (.pure _)
  split
  · exact .pure _
  · refine (Blind.modifyOwn _).bind fun _ => (blind_runCompletions _).bind fun pipelines => ?_
    exact .forM (fun kind => Blind.validationChain.bind fun _ => .tell _ _) _

theorem blind_awaitOperation (r : DeviceRequest) (operation : Handle) (out : Outputs) :
    Blind (awaitOperation r operation out : DeviceM σ (Result × Outputs)) :=
  (blind_send _ _).bind fun _ => (Blind.forM blind_receive _).bind fun _ =>
    (blind_completeOperation _ _).bind fun _ => .pure _

theorem blind_serve (r : DeviceRequest) (out : Outputs) :
    Blind (serve r out : DeviceM σ (Result × Outputs)) := by
  cases r with
  | create info => exact blind_createObject info out
  | destroy kind h => exact (blind_destroy kind h).bind fun _ => .pure _
  | releaseConfiguration h => exact blind_releaseConfiguration h out
  | resetDescriptorPool pool flags => exact blind_resetDescriptorPool pool flags out
  | allocateSets pool layouts => exact blind_allocateSets pool layouts out
  | freeSets pool sets => exact blind_freeSets pool sets out
  | createGraphicsPipelines => exact blind_createPipelines _ _ out
  | createComputePipelines => exact blind_createPipelines _ _ out
  | createRayTracingPipelines => exact blind_createRayTracingPipelines _ _ _ _ out
  | allocateCommandBuffers => exact blind_allocateCommandBuffers _ _ _ out
  | freeCommandBuffers pool buffers =>
    exact (blind_freeCommandBuffers pool buffers).bind fun _ => .pure _
  | getSwapchainImages swapchain => exact blind_getSwapchainImages swapchain out
  | joinOperation operation => exact blind_awaitOperation _ operation out
  | queryOperation operation => exact blind_awaitOperation _ operation out
  | buildStructures => exact blind_buildStructures _ _ _ out
  | _ => exact blind_relay _ out

omit [NextLayer σ] in
theorem blind_prepare (r : DeviceRequest) : Blind (prepare r : DeviceM σ Unit) := by
  cases r with
  | destroy kind h =>
    cases kind with
    | renderPass | updateTemplate | commandPool => exact .modifyOwn _
    | deferredOperation =>
      refine Blind.getOwn.bind fun own => ?_
      split
      · exact .pure _
      · exact (Blind.modifyOwn _).bind fun _ => (Blind.note _).bind fun _ => .emit _
    | _ => exact .pure _
  | _ => exact .pure _

omit [NextLayer σ] in
theorem blind_conclude (r : DeviceRequest) (result : Result) (out : Outputs) :
    Blind (conclude r result out : DeviceM σ Unit) := by
  cases r with
  | create info =>
    refine Blind.wrapping.bind fun _ => .ite ?_ (.pure _)
    split
    · exact .modifyOwn _
    · exact .pure _
  | createRayTracingPipelines =>
    exact .modifyWorld (fun _ _ h => ⟨h.wrapper, h.behaviour, h.below⟩) fun _ => rfl
  | _ => exact .pure _

/-- **No call to a device depends on what was seen or on the application's storage.** -/
theorem blind_perform (r : DeviceRequest) (out : Outputs) :
    Blind (perform r out : DeviceM σ (Result × Outputs)) :=
  (blind_prepare r).bind fun _ => (Blind.intercept (blind_serve r out)).bind fun ⟨_, _⟩ =>
    (blind_conclude r _ _).bind fun _ => .pure _

end Device

/-! ### Calls to an instance -/

namespace Instance

variable [NextLayer σ]

theorem blind_relay (r : InstanceRequest) (out : Outputs) :
    Blind (relay r out : InstanceM σ (Result × Outputs)) :=
  Blind.get_bind (fun s s' h => by rw [h.world.wrapper]) fun _ =>
    (Blind.forward _ _).bind fun _ => .pure _

theorem blind_destroySurface (surface : Handle) :
    Blind (destroySurface surface : InstanceM σ Unit) :=
  Blind.get_bind (fun s s' h => by rw [h.world.wrapper]) fun _ =>
    (Blind.forward _ _).bind fun _ => (Blind.eraseHandle _).bind fun _ =>
      .announceDestroyed _ _

theorem blind_reportHandles (r : InstanceRequest)
    {wrap : List Handle → InstanceM σ (List Handle)} (hwrap : ∀ reals, Blind (wrap reals))
    (out : Outputs) : Blind (reportHandles r wrap out) := by
  refine (blind_relay _ _).bind fun ⟨result, out⟩ => ?_
  dsimp only
  split
  · exact .pure _
  · exact .ite ((hwrap _).bind fun _ => .pure _) (.pure _)

theorem blind_reportTools (query : ToolQuery) (physicalDevice : Handle) (out : Outputs) :
    Blind (reportTools query physicalDevice out : InstanceM σ (Result × Outputs)) := by
  unfold reportTools
  split
  · exact (Blind.forward _ _).bind fun _ => .ite (.pure _) (.ite (.pure _) (.pure _))
  · exact .pure _
  · exact (Blind.forward _ _).bind fun _ => .ite (.pure _) (.ite (.pure _) (.pure _))

/-- **No call to an instance depends on what was seen or on the application's storage.** -/
theorem blind_perform (r : InstanceRequest) (out : Outputs) :
    Blind (perform r out : InstanceM σ (Result × Outputs)) := by
  refine .intercept ?_
  cases r with
  | destroySurface surface => exact (blind_destroySurface surface).bind fun _ => .pure _
  | displays => exact blind_reportHandles _ Blind.wrapDisplayMany out
  | modes => exact blind_reportHandles _ Blind.wrapNewMany out
  | tools query physicalDevice _ => exact blind_reportTools query physicalDevice out
  | _ => exact blind_relay _ out

theorem blind_startDevice (physicalDevice device : Handle) (table : EntryTable)
    (objects : List ValidationObject) :
    Blind (startDevice physicalDevice device table objects :
      InstanceM σ (Dispatch Tracked)) := by
  refine (Blind.forward _ _).bind fun reply => ?_
  refine Blind.get_bind (fun s s' h => by rw [h.object, h.world.behaviour]) fun s => ?_
  exact (Blind.note _).bind fun _ => .pure _

end Instance

/-! ### Systems -/

namespace System

/-- The same instance with the same devices, above worlds that agree. -/
structure Agrees (s s' : System σ) : Prop where
  host : s.host = s'.host
  devices : s.devices = s'.devices
  world : s.world.Agrees s'.world

theorem Agrees.onInstance {s s' : System σ} (h : s.Agrees s') {call : InstanceM σ α}
    (hcall : Blind call) :
    (s.onInstance call).1 = (s'.onInstance call).1 ∧
      (s.onInstance call).2.Agrees (s'.onInstance call).2 ∧
      s.world.SeesSame s'.world (s.onInstance call).2.world (s'.onInstance call).2.world := by
  obtain ⟨hanswer, hstate, hseen⟩ := hcall ⟨s.host, s.world⟩ ⟨s'.host, s'.world⟩
    ⟨h.host, h.world⟩
  exact ⟨hanswer, ⟨hstate.object, h.devices, hstate.world⟩, hseen⟩

/-- The answers of a call to a device from states that agree, and what it leaves. -/
theorem Agrees.onDevice {s s' : System σ} (h : s.Agrees s') (k : Nat) {call : DeviceM σ α}
    (hcall : Blind call) :
    (s.onDevice k call).map Prod.fst = (s'.onDevice k call).map Prod.fst ∧
      (((s.onDevice k call).map Prod.snd).getD s).Agrees
        (((s'.onDevice k call).map Prod.snd).getD s') ∧
      s.world.SeesSame s'.world (((s.onDevice k call).map Prod.snd).getD s).world
        (((s'.onDevice k call).map Prod.snd).getD s').world := by
  unfold System.onDevice
  rw [← h.devices]
  cases s.devices[k]? with
  | none => exact ⟨rfl, h, .refl s.world s'.world⟩
  | some device =>
    obtain ⟨hanswer, hstate, hseen⟩ := hcall ⟨device, s.world⟩ ⟨device, s'.world⟩
      ⟨rfl, h.world⟩
    refine ⟨congrArg some hanswer, ⟨h.host, ?_, hstate.world⟩, hseen⟩
    exact congrArg (s.devices.set k) hstate.object

variable [NextLayer σ]

/-- **Systems that agree stay so**, whatever happens to them, and let the same be seen. -/
theorem Agrees.act {s s' : System σ} (h : s.Agrees s') (a : Action σ) :
    (s.act a).Agrees (s'.act a) ∧
      s.world.SeesSame s'.world (s.act a).world (s'.act a).world := by
  have hregistry : ∀ device f, (s.modifyRegistry device f).Agrees (s'.modifyRegistry device f) ∧
      s.world.SeesSame s'.world (s.modifyRegistry device f).world
        (s'.modifyRegistry device f).world := by
    intro device f
    cases device with
    | none =>
      refine ⟨⟨?_, h.devices, h.world⟩, .refl s.world s'.world⟩
      simp only [modifyRegistry, modifyHost, h.host, h.world.behaviour]
    | some k =>
      refine ⟨⟨h.host, ?_, h.world⟩, .refl s.world s'.world⟩
      simp only [modifyRegistry, modifyDevice, h.devices, h.world.behaviour]
  cases a with
  | callInstance r out => exact (h.onInstance (Instance.blind_perform r out)).2
  | callDevice k r out => exact (h.onDevice k (Device.blind_perform r out)).2
  | createDevice physicalDevice device table objects =>
    obtain ⟨hobject, hstate, hseen⟩ :=
      h.onInstance (Instance.blind_startDevice physicalDevice device table objects)
    have hdevices := congr (congrArg (fun ds d => ds ++ [d]) hstate.devices) hobject
    exact ⟨⟨hstate.host, hdevices, hstate.world⟩, hseen⟩
  | release device kind => exact hregistry device _
  | releaseAll device => exact hregistry device _
  | instruct behaviour =>
    exact ⟨⟨h.host, h.devices, h.world.wrapper, rfl, h.world.below⟩, .refl s.world s'.world⟩
  | moveBelow f =>
    exact ⟨⟨h.host, h.devices, h.world.wrapper, h.world.behaviour, congrArg f h.world.below⟩,
      .refl s.world s'.world⟩

/-- Systems that agree stay so over a whole run. -/
theorem Agrees.run {s s' : System σ} (h : s.Agrees s') (actions : List (Action σ)) :
    (s.run actions).Agrees (s'.run actions) ∧
      s.world.SeesSame s'.world (s.run actions).world (s'.run actions).world := by
  induction actions generalizing s s' with
  | nil => exact ⟨h, .refl s.world s'.world⟩
  | cons a actions ih =>
    obtain ⟨hstate, hseen⟩ := h.act a
    obtain ⟨hend, hrest⟩ := ih hstate
    exact ⟨hend, hseen.trans hrest⟩

/-- Whatever happens from now on: the same is seen, calls are answered alike, and the
states agree. -/
def BehavesAs (s s' : System σ) : Prop :=
  ∀ actions : List (Action σ), (s.run actions).Agrees (s'.run actions) ∧
    s.world.SeesSame s'.world (s.run actions).world (s'.run actions).world ∧
    (∀ r out, ((s.run actions).onInstance (Instance.perform r out)).1
      = ((s'.run actions).onInstance (Instance.perform r out)).1) ∧
    ∀ k r out, ((s.run actions).onDevice k (Device.perform r out)).map Prod.fst
      = ((s'.run actions).onDevice k (Device.perform r out)).map Prod.fst

/-- **Systems that agree behave alike for ever.** -/
theorem Agrees.behavesAs {s s' : System σ} (h : s.Agrees s') : s.BehavesAs s' := by
  intro actions
  obtain ⟨hend, hseen⟩ := h.run actions
  refine ⟨hend, hseen, fun r out => ?_, fun k r out => ?_⟩
  · exact (hend.onInstance (Instance.blind_perform r out)).1
  · exact (hend.onDevice k (Device.blind_perform r out)).1

end System

end HandleLayer
