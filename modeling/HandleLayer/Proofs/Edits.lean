import HandleLayer.Proofs.SkippedCalls
import Mathlib.Logic.Relation

/-!
# What a call may change of what is kept

A device keeps tables of children, shadows and deferred operations.  Each request makes a
few changes to them and no others, so that a table which none of the changes of a request
touches is the same after the call.

## Main definitions

* `DeviceRequest.Edits` — the changes that a request may make.
* `Tracked.EditedBy` — what can come of such changes, one after the other.
* `Device.Edited` — programs that make no other changes.

## Main results

* `Device.edited_perform` — **a call makes no other changes than its request may make.**
* `Tracked.EditedBy.preserves` — what all changes of a request preserve is preserved.
-/

namespace HandleLayer

variable {σ α β τ : Type}

/-- The operation that a request joins, or whose result it asks for. -/
def DeviceRequest.awaits? : DeviceRequest → Option Handle
  | .joinOperation operation | .queryOperation operation => some operation
  | _ => none

/-- The changes that a request may make to what a device keeps. -/
inductive DeviceRequest.Edits : DeviceRequest → (Tracked → Tracked) → Prop
  | forgetUsage (h : Handle) : Edits (.destroy .renderPass h) (Tracked.forgetUsage h)
  | forgetTemplate (h : Handle) : Edits (.destroy .updateTemplate h) (Tracked.forgetTemplate h)
  | forgetCommandPool (h : Handle) :
    Edits (.destroy .commandPool h) (Tracked.forgetCommandPool h)
  | forgetPool (h : Handle) : Edits (.destroy .descriptorPool h) (Tracked.forgetPool h)
  | forgetSwapchain (h : Handle) : Edits (.destroy .swapchain h) (Tracked.forgetSwapchain h)
  | discard (operation : Handle) :
    Edits (.destroy .deferredOperation operation) (Tracked.modifyDeferred (.erase operation))
  | remember (info : CreateInfo) (h : Handle) : Edits (.create info) (Device.remember h info)
  | clearSets (pool : Handle) (flags : UInt32) :
    Edits (.resetDescriptorPool pool flags) (Tracked.clearSets pool)
  | addSets (pool : Handle) (layouts : AppArray Handle) (sets : List Handle) :
    Edits (.allocateSets pool layouts) (Tracked.addSets pool sets)
  | removeSets (pool : Handle) (sets : AppArray Handle) :
    Edits (.freeSets pool sets) (Tracked.removeSets pool sets.toList)
  | setImages (swapchain : Handle) (images : List Handle) :
    Edits (.getSwapchainImages swapchain) (Tracked.setImages swapchain images)
  | addSecondaries (pool : Handle) (level : BufferLevel) (count : UInt32)
      (buffers : List Handle) :
    Edits (.allocateCommandBuffers pool level count) (Tracked.addSecondaries pool buffers)
  | removeSecondaries (pool : Handle) (buffers : AppArray Handle) :
    Edits (.freeCommandBuffers pool buffers) (Tracked.removeSecondaries buffers.toList)
  | deferPipelines (batch : BatchId) (operation cache : Handle)
      (infos : AppArray RayTracingInfo) (completions : List Completion)
      (kinds : List ObjectKind) :
    Edits (.createRayTracingPipelines batch operation cache infos)
      (Tracked.modifyDeferred (.add operation completions kinds))
  | deferBuilds (operation : Handle) (infos : AppArray BuildInfo)
      (ranges : Option (List (List BuildRange))) (completions : List Completion) :
    Edits (.buildStructures operation infos ranges)
      (Tracked.modifyDeferred (.add operation completions []))
  | receive {r : DeviceRequest} {operation : Handle} (h : r.awaits? = some operation)
      (w : LateWrite) : Edits r (Tracked.modifyDeferred (.receive w))
  | complete {r : DeviceRequest} {operation : Handle} (h : r.awaits? = some operation) :
    Edits r (Tracked.modifyDeferred (.erase operation))

/-- What can come of changes that a request may make, one after the other. -/
def Tracked.EditedBy (r : DeviceRequest) : Tracked → Tracked → Prop :=
  Relation.ReflTransGen fun t t' => ∃ f, r.Edits f ∧ t' = f t

namespace Tracked.EditedBy

variable {r : DeviceRequest} {t t' : Tracked}

/-- **What every change of a request preserves is preserved.** -/
theorem preserves (h : EditedBy r t t') {π : Tracked → τ}
    (hπ : ∀ f, r.Edits f → ∀ t, π (f t) = π t) : π t' = π t := by
  induction h with
  | refl => rfl
  | tail _ hlast ih =>
    obtain ⟨f, hf, rfl⟩ := hlast
    exact (hπ f hf _).trans ih

/-- What every change of a request leaves true is true afterwards. -/
theorem invariant (h : EditedBy r t t') {P : Tracked → Prop}
    (hP : ∀ f, r.Edits f → ∀ t, P t → P (f t)) (ht : P t) : P t' := by
  induction h with
  | refl => exact ht
  | tail _ hlast ih =>
    obtain ⟨f, hf, rfl⟩ := hlast
    exact hP f hf _ ih

/-- A request that may make no changes leaves all as it is. -/
theorem eq_of_not_edits (h : EditedBy r t t') (hr : ∀ f, ¬ r.Edits f) : t' = t :=
  h.preserves (π := id) fun f hf => absurd hf (hr f)

end Tracked.EditedBy

/-! ### Programs -/

/-- A program that makes no other changes to what a device keeps than a request may make. -/
def Device.Edited (r : DeviceRequest) (p : DeviceM σ α) : Prop :=
  ∀ s : Layer Tracked σ, s.object.own.EditedBy r (p.run s).2.object.own

namespace Device

variable {r : DeviceRequest}

namespace Edited

/-- A program after which the device keeps what it kept. -/
theorem of_same {p : DeviceM σ α} (h : ∀ s, (p.run s).2.object.own = s.object.own) :
    Edited r p := by
  intro s
  rw [h]
  exact .refl

theorem pure (a : α) : Edited r (Pure.pure a : DeviceM σ α) := of_same fun _ => rfl

theorem bind {p : DeviceM σ α} {f : α → DeviceM σ β} (hp : Edited r p)
    (hf : ∀ a, Edited r (f a)) : Edited r (p >>= f) :=
  fun s => (hp s).trans (hf (p.run s).1 (p.run s).2)

theorem ite {c : Prop} [Decidable c] {p q : DeviceM σ α} (hp : Edited r p) (hq : Edited r q) :
    Edited r (if c then p else q) := by
  split
  · exact hp
  · exact hq

theorem forM {f : β → DeviceM σ Unit} (hf : ∀ b, Edited r (f b)) (bs : List β) :
    Edited r (bs.forM f) := by
  induction bs with
  | nil => exact pure ()
  | cons b bs ih => exact (hf b).bind fun _ => ih

theorem getOwn : Edited r (HandleLayer.getOwn : DeviceM σ Tracked) := of_same fun _ => rfl

theorem wrapping : Edited r (HandleLayer.wrapping : DeviceM σ Bool) := of_same fun _ => rfl

theorem validationChain : Edited r (HandleLayer.validationChain : DeviceM σ ValidationChain) :=
  of_same fun _ => rfl

theorem modifyWorld (f : World σ → World σ) :
    Edited r (HandleLayer.modifyWorld f : DeviceM σ Unit) := of_same fun _ => rfl

theorem emit (events : List Event) : Edited r (HandleLayer.emit events : DeviceM σ Unit) :=
  of_same fun _ => rfl

/-- A change that the request may make. -/
theorem modifyOwn {f : Tracked → Tracked} (hf : r.Edits f) :
    Edited r (HandleLayer.modifyOwn f : DeviceM σ Unit) :=
  fun _ => .single ⟨f, hf, rfl⟩

theorem wrapNewMany (reals : List Handle) :
    Edited r (HandleLayer.wrapNewMany reals : DeviceM σ (List Handle)) := of_same fun _ => rfl

theorem tell (objects : List ValidationObject) (hook : Hook) :
    Edited r (HandleLayer.tell objects hook : DeviceM σ Unit) :=
  forM (fun _ => emit _) objects

theorem announce (hook : Hook) : Edited r (HandleLayer.announce hook : DeviceM σ Unit) :=
  (emit _).bind fun _ => validationChain.bind fun chain => tell chain.objects hook

theorem announceCreated (type : ObjectType) (h : Handle) :
    Edited r (HandleLayer.announceCreated type h : DeviceM σ Unit) :=
  .ite (announce _) (pure ())

theorem announceDestroyed (type : ObjectType) (h : Handle) :
    Edited r (HandleLayer.announceDestroyed type h : DeviceM σ Unit) :=
  .ite (announce _) (pure ())

/-- Surrogates for new objects. -/
theorem mint (type : ObjectType) (real : Handle) {f : Handle → DeviceM σ α}
    (hf : ∀ h, Edited r (f h)) :
    Edited r (do
      let h ← HandleLayer.wrapNew real
      HandleLayer.announceCreated type h
      f h) :=
  (of_same fun _ => rfl).bind fun h => (announceCreated type h).bind fun _ => hf h

theorem intercept {command : Command} {skipped : α} {body : DeviceM σ (Result × α)}
    (hbody : Edited r body) : Edited r (HandleLayer.intercept command skipped body) := by
  have hask : ∀ chain : ValidationChain, Edited r (askToSkip chain command : DeviceM σ Bool) :=
    fun chain => of_same fun s => by rw [run_askToSkip]; rfl
  refine validationChain.bind fun chain => (hask chain).bind fun skip => ?_
  refine ite (pure _) ((tell _ _).bind fun _ => hbody.bind fun p => ?_)
  exact (tell _ _).bind fun _ => pure _

end Edited

theorem edited_dropSets (sets : List Handle) : Edited r (dropSets sets : DeviceM σ Unit) :=
  .forM (fun set => (Edited.modifyWorld _).bind fun _ => .announceDestroyed .descriptorSet set) sets

theorem edited_publishPipelines (reals : List Handle) :
    Edited r (publishPipelines reals : DeviceM σ (List Handle)) := by
  induction reals with
  | nil => exact .pure _
  | cons real reals ih => exact .mint .pipeline real fun h => ih.bind fun hs => .pure _

theorem edited_publishOutputs (count : Nat) (out : Outputs) :
    Edited r (publishOutputs count out : DeviceM σ Outputs) :=
  (edited_publishPipelines _).bind fun _ => .pure _

theorem edited_runCompletions (cs : List Completion) :
    Edited r (runCompletions cs : DeviceM σ (List Handle)) := by
  have hone : ∀ c, Edited r (runCompletion c : DeviceM σ (List Handle)) := by
    rintro (inputs | ⟨batch, produced⟩)
    · refine Edited.bind ?_ fun _ => (Edited.emit _).bind fun _ => .pure _
      rcases inputs with ⟨batch, copies⟩ | sent | number
      · exact .modifyWorld _
      · exact .pure _
      · exact .pure _
    · exact (edited_publishPipelines _).bind fun _ => (Edited.modifyWorld _).bind fun _ => .pure _
  induction cs with
  | nil => exact .pure _
  | cons c cs ih => exact (hone c).bind fun _ => ih.bind fun _ => .pure _

/-! ### Calls to a device -/

theorem edited_prepare (r : DeviceRequest) : Edited r (prepare r : DeviceM σ Unit) := by
  unfold prepare
  split
  · exact .modifyOwn (.forgetUsage _)
  · exact .modifyOwn (.forgetTemplate _)
  · exact .modifyOwn (.forgetCommandPool _)
  · next operation =>
    refine Edited.getOwn.bind fun t => ?_
    split
    · exact .pure _
    · refine (Edited.modifyOwn (.discard operation)).bind fun _ => ?_
      exact (Edited.emit _).bind fun _ => .emit _
  · exact .pure _

theorem edited_conclude (r : DeviceRequest) (result : Result) (out : Outputs) :
    Edited r (conclude r result out : DeviceM σ Unit) := by
  unfold conclude
  split
  · next info =>
    refine Edited.wrapping.bind fun wraps => .ite ?_ (.pure _)
    split
    · exact .modifyOwn (.remember info _)
    · exact .pure _
  · exact .modifyWorld _
  · exact .pure _

variable [NextLayer σ]

theorem edited_send (r' : DeviceRequest) (room : Option Nat) :
    Edited r (send r' room : DeviceM σ (DeviceRequest × Reply)) := by
  refine .of_same fun s => ?_
  rw [run_send, object_sent]

theorem edited_relay (r' : DeviceRequest) (out : Outputs) :
    Edited r (relay r' out : DeviceM σ (Result × Outputs)) :=
  (edited_send r' _).bind fun _ => .pure _

theorem edited_destroyObject (kind : Destroyable) (h : Handle) :
    Edited r (destroyObject kind h : DeviceM σ Unit) :=
  (edited_send _ _).bind fun _ => (Edited.modifyWorld _).bind fun _ => .announceDestroyed _ h

theorem edited_destroy (kind : Destroyable) (h : Handle) :
    Edited (.destroy kind h) (destroy kind h : DeviceM σ Unit) := by
  cases kind with
  | descriptorPool =>
    refine Edited.getOwn.bind fun t => (Edited.modifyOwn (.forgetPool h)).bind fun _ => ?_
    exact (edited_dropSets _).bind fun _ => edited_destroyObject _ h
  | swapchain =>
    refine Edited.getOwn.bind fun t => (Edited.modifyOwn (.forgetSwapchain h)).bind fun _ => ?_
    refine (edited_send _ _).bind fun _ => (Edited.modifyWorld _).bind fun _ => ?_
    refine (Edited.forM (fun _ => .modifyWorld _) _).bind fun _ => ?_
    exact (Edited.forM (Edited.announceDestroyed .image) _).bind fun _ => .announceDestroyed _ h
  | _ => exact edited_destroyObject _ h

theorem edited_createObject (info : CreateInfo) (out : Outputs) :
    Edited r (createObject info out : DeviceM σ (Result × Outputs)) := by
  refine (edited_relay _ _).bind fun ⟨result, out⟩ => ?_
  dsimp only
  split
  · exact .ite (.mint _ _ fun _ => .pure _) (.pure _)
  · exact .pure _

theorem edited_awaitOperation {operation : Handle} (hr : r.awaits? = some operation)
    (out : Outputs) : Edited r (awaitOperation r operation out : DeviceM σ (Result × Outputs)) := by
  have hreceive : ∀ w, Edited r (receive w : DeviceM σ Unit) := by
    intro w
    refine Edited.wrapping.bind fun wraps => .ite ?_ (.modifyWorld _)
    refine (Edited.modifyOwn (.receive hr w)).bind fun _ => Edited.getOwn.bind fun t => ?_
    split
    · exact .pure _
    · exact .modifyWorld _
  have hcomplete : ∀ result, Edited r (completeOperation operation result : DeviceM σ Unit) := by
    intro result
    refine .ite (Edited.getOwn.bind fun t => ?_) (.pure _)
    split
    · exact .pure _
    · refine (Edited.modifyOwn (.complete hr)).bind fun _ => ?_
      refine (edited_runCompletions _).bind fun hs => ?_
      exact .forM (fun kind => Edited.validationChain.bind fun _ => .tell _ _) _
  refine (edited_send _ _).bind fun ⟨sent, reply⟩ => ?_
  exact (Edited.forM hreceive _).bind fun _ => (hcomplete _).bind fun _ => .pure _

theorem edited_createRayTracingPipelines (batch : BatchId) (operation cache : Handle)
    (infos : AppArray RayTracingInfo) (out : Outputs) :
    Edited (.createRayTracingPipelines batch operation cache infos)
      (createRayTracingPipelines batch operation cache infos out :
        DeviceM σ (Result × Outputs)) := by
  refine Edited.wrapping.bind fun wraps => .ite ?_ (edited_relay _ _)
  refine (edited_send _ _).bind fun ⟨sent, reply⟩ => ?_
  refine .ite ?_ ((edited_publishOutputs _ _).bind fun _ => .pure _)
  refine Edited.validationChain.bind fun chain => ?_
  exact (Edited.modifyOwn (.deferPipelines ..)).bind fun _ => .pure _

theorem edited_serve (r : DeviceRequest) (out : Outputs) :
    Edited r (serve r out : DeviceM σ (Result × Outputs)) := by
  -- every change of what is kept is one of those that the request may make
  cases r with
  | create info => exact edited_createObject info out
  | destroy kind h => exact (edited_destroy kind h).bind fun _ => .pure _
  | releaseConfiguration h =>
    refine (edited_relay _ _).bind fun ⟨result, out⟩ => ?_
    refine .ite ?_ (.pure _)
    exact (Edited.modifyWorld _).bind fun _ => (Edited.announceDestroyed _ h).bind fun _ => .pure _
  | resetDescriptorPool pool flags =>
    refine (edited_relay _ _).bind fun ⟨result, out⟩ => ?_
    refine .ite (Edited.getOwn.bind fun t => ?_) (.pure _)
    refine (Edited.modifyOwn (.clearSets pool flags)).bind fun _ => ?_
    exact (edited_dropSets _).bind fun _ => .pure _
  | allocateSets pool layouts =>
    refine (edited_relay _ _).bind fun ⟨result, out⟩ => Edited.wrapping.bind fun wraps => ?_
    refine .ite ((Edited.wrapNewMany _).bind fun sets => ?_) (.pure _)
    refine (Edited.modifyOwn (.addSets pool layouts sets)).bind fun _ => ?_
    exact (Edited.forM (Edited.announceCreated .descriptorSet) _).bind fun _ => .pure _
  | freeSets pool sets =>
    refine (edited_relay _ _).bind fun ⟨result, out⟩ => Edited.wrapping.bind fun wraps => ?_
    refine .ite ((Edited.modifyOwn (.removeSets pool sets)).bind fun _ => ?_) (.pure _)
    exact (edited_dropSets _).bind fun _ => .pure _
  | createGraphicsPipelines cache infos | createComputePipelines cache infos =>
    refine (edited_relay _ _).bind fun ⟨result, out⟩ => Edited.wrapping.bind fun wraps => ?_
    exact .ite ((edited_publishOutputs _ _).bind fun _ => .pure _) (.pure _)
  | createRayTracingPipelines batch operation cache infos =>
    exact edited_createRayTracingPipelines batch operation cache infos out
  | allocateCommandBuffers pool level count =>
    refine (edited_relay _ _).bind fun ⟨result, out⟩ => ?_
    exact .ite ((Edited.modifyOwn (.addSecondaries ..)).bind fun _ => .pure _) (.pure _)
  | freeCommandBuffers pool buffers =>
    refine Edited.bind ((edited_send _ _).bind fun _ => ?_) fun _ => .pure _
    exact .modifyOwn (.removeSecondaries pool buffers)
  | getSwapchainImages swapchain =>
    refine (edited_relay _ _).bind fun ⟨result, out⟩ => ?_
    dsimp only
    split
    · exact .pure _
    · refine Edited.wrapping.bind fun wraps => .ite (Edited.getOwn.bind fun t => ?_) (.pure _)
      refine (Edited.wrapNewMany _).bind fun fresh => ?_
      refine (Edited.modifyOwn (.setImages swapchain _)).bind fun _ => ?_
      exact (Edited.forM (Edited.announceCreated .image) _).bind fun _ => .pure _
  | joinOperation operation => exact edited_awaitOperation rfl out
  | queryOperation operation => exact edited_awaitOperation rfl out
  | buildStructures operation infos ranges =>
    refine (edited_send _ _).bind fun ⟨sent, reply⟩ => Edited.wrapping.bind fun wraps => ?_
    exact .ite ((Edited.modifyOwn (.deferBuilds ..)).bind fun _ => .pure _) (.pure _)
  | _ => exact edited_relay _ out

/-- **A call makes no other changes to what is kept than its request may make.** -/
theorem edited_perform (r : DeviceRequest) (out : Outputs) :
    Edited r (perform r out : DeviceM σ (Result × Outputs)) := by
  refine (edited_prepare r).bind fun _ => (Edited.intercept (edited_serve r out)).bind fun p => ?_
  exact (edited_conclude r _ _).bind fun _ => .pure _

end Device

end HandleLayer
