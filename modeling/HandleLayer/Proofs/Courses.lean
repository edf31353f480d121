import HandleLayer.Proofs.LifetimeRuns
import HandleLayer.Proofs.Unwrapped
import Mathlib.Logic.Relation

/-!
# Calls, step by step

Whatever a call does is made up of a few elementary steps: surrogates are minted, shown again
or removed, the object changes what it has of its own, storage of the application is written,
validation objects are told of handles and pipelines, and requests go down.  A property that
every step keeps is kept by every call, and which requests go down can be read off the request
that is served.

## Main definitions

* `Course` — a sequence of steps, with the commands of the requests that go down.
* `Takes` — programs that come to such a sequence in every state.
* `Event.IsWithin` — what can be seen of the part of a call that can be skipped.
* `Event.announced?`, `Event.lifetime?` — announcements, and who is told of them.
* `Dispatch.Shows` — what an object shows while requests go down.
* `Wrapper.Step` — what one step may do to the surrogates.

## Main results

* `Device.takes_serve`, `Instance.takes_serve` — **the part of a call that can be skipped asks
  the next layer once.**
* `Course.object_eq`, `Course.behaviour_eq` — nobody changes the validation objects.
* `Course.events` — what is seen of a course.
* `Course.wrapper`, `Device.steps_perform`, `Instance.steps_perform` — what becomes of the
  surrogates.
* `Device.registry_perform`, `Instance.object_perform` — calls leave the validation objects alone.
-/

namespace HandleLayer

variable {δ σ α β : Type}

/-! ### Steps -/

/-- Whether an event is seen by no validation object and not by the next layer. -/
def Event.isAside : Event → Bool
  | .notice _ | .completed _ | .dropped _ => true
  | _ => false

/-- A sequence of elementary steps from one state to another.  Requests with these commands go
down on the way.  An object that `tracks` children, as a device does, may change what it has of
its own; displays are shown by the others. -/
inductive Course [NextLayer σ] (tracks : Prop) :
    List Command → Layer δ σ → Layer δ σ → Prop
  | refl (s : Layer δ σ) : Course tracks [] s s
  | trans {cs cs' : List Command} {s t u : Layer δ σ} :
    Course tracks cs s t → Course tracks cs' t u → Course tracks (cs ++ cs') s u
  | edit (h : tracks) (own : δ) (s : Layer δ σ) : Course tracks [] s (s.withOwn own)
  | store (memory : Table BatchId Batch) (s : Layer δ σ) : Course tracks [] s (s.withMemory memory)
  | aside {es : List Event} (hes : es.all Event.isAside = true) (s : Layer δ σ) :
    Course tracks [] s (s.see es)
  | created (type : ObjectType) (h : Handle) (s : Layer δ σ) :
    Course tracks [] s (s.see (births s.object.registry.chain.objects type [h]))
  | destroyed (type : ObjectType) (h : Handle) (s : Layer δ σ) :
    Course tracks [] s (s.see (deaths s.object.registry.chain.objects type [h]))
  | ready (operation : Handle) (pipelines : List Handle) (kind : ObjectKind) (s : Layer δ σ) :
    Course tracks [] s (s.see
      (toldEach (s.object.registry.chain.get? kind).toList (.pipelinesReady operation pipelines)))
  | mint (real : Handle) (s : Layer δ σ) :
    Course tracks [] s (s.withWrapper (s.world.wrapper.wrapNew real).2)
  | display (h : ¬ tracks) (real : Handle) (s : Layer δ σ) :
    Course tracks [] s (s.withWrapper (s.world.wrapper.wrapDisplay real).2)
  | erase (h : Handle) (s : Layer δ σ) :
    Course tracks [] s (s.withWrapper (s.world.wrapper.erase h))
  | ask (request : Request) (room : Option Nat) (s : Layer δ σ) :
    Course tracks [request.command] s (s.ask request room)

/-- A program that comes to a sequence of steps in every state, on which requests with these
commands go down. -/
def Takes [NextLayer σ] (tracks : Prop) (cs : List Command) (p : CallM δ σ α) : Prop :=
  ∀ s : Layer δ σ, Course tracks cs s (p.run s).2

namespace Takes

variable [NextLayer σ] {tracks : Prop} {cs : List Command}

theorem pure (a : α) : Takes tracks [] (Pure.pure a : CallM δ σ α) := fun s => .refl s

/-- Nothing goes down before the second program. -/
theorem bind {p : CallM δ σ α} {f : α → CallM δ σ β} (hp : Takes tracks [] p)
    (hf : ∀ a, Takes tracks cs (f a)) : Takes tracks cs (p >>= f) :=
  fun s => (hp s).trans (hf (p.run s).1 (p.run s).2)

/-- Nothing goes down after the first program. -/
theorem followed {p : CallM δ σ α} {f : α → CallM δ σ β} (hp : Takes tracks cs p)
    (hf : ∀ a, Takes tracks [] (f a)) : Takes tracks cs (p >>= f) := by
  intro s
  have hboth := (hp s).trans (hf (p.run s).1 (p.run s).2)
  rwa [List.append_nil] at hboth

theorem ite {c : Prop} [Decidable c] {p q : CallM δ σ α} (hp : Takes tracks cs p)
    (hq : Takes tracks cs q) : Takes tracks cs (if c then p else q) := by
  split
  · exact hp
  · exact hq

theorem forM {f : β → CallM δ σ Unit} (hf : ∀ b, Takes tracks [] (f b)) (bs : List β) :
    Takes tracks [] (bs.forM f) := by
  induction bs with
  | nil => exact pure ()
  | cons b bs ih => exact (hf b).bind fun _ => ih

theorem getOwn : Takes tracks [] (HandleLayer.getOwn : CallM δ σ δ) := fun s => .refl s

theorem wrapping : Takes tracks [] (HandleLayer.wrapping : CallM δ σ Bool) := fun s => .refl s

theorem validationChain :
    Takes tracks [] (HandleLayer.validationChain : CallM δ σ ValidationChain) := fun s => .refl s

theorem modifyOwn (h : tracks) (f : δ → δ) :
    Takes tracks [] (HandleLayer.modifyOwn f : CallM δ σ Unit) := fun s => .edit h _ s

theorem modifyBatch (batch : BatchId) (f : Batch → Batch) :
    Takes tracks [] (HandleLayer.modifyBatch batch f : CallM δ σ Unit) := fun s => .store _ s

theorem emit {es : List Event} (hes : es.all Event.isAside = true) :
    Takes tracks [] (HandleLayer.emit es : CallM δ σ Unit) := fun s => .aside hes s

theorem note (notices : List Notice) :
    Takes tracks [] (HandleLayer.note notices : CallM δ σ Unit) := by
  refine emit ?_
  rw [List.all_map]
  exact List.all_eq_true.2 fun _ _ => rfl

theorem announceCreated (type : ObjectType) (h : Handle) :
    Takes tracks [] (HandleLayer.announceCreated type h : CallM δ σ Unit) := by
  intro s
  rw [run_announceCreated]
  exact .created type h s

theorem announceDestroyed (type : ObjectType) (h : Handle) :
    Takes tracks [] (HandleLayer.announceDestroyed type h : CallM δ σ Unit) := by
  intro s
  rw [run_announceDestroyed]
  exact .destroyed type h s

theorem wrapNew (real : Handle) :
    Takes tracks [] (HandleLayer.wrapNew real : CallM δ σ Handle) := fun s => .mint real s

theorem wrapNewMany (reals : List Handle) :
    Takes tracks [] (HandleLayer.wrapNewMany reals : CallM δ σ (List Handle)) := by
  intro s
  induction reals generalizing s with
  | nil => exact .refl s
  | cons real reals ih =>
    exact Course.trans (.mint real s) (ih (s.withWrapper (s.world.wrapper.wrapNew real).2))

theorem wrapDisplayMany (h : ¬ tracks) (reals : List Handle) :
    Takes tracks [] (HandleLayer.wrapDisplayMany reals : CallM δ σ (List Handle)) := by
  intro s
  induction reals generalizing s with
  | nil => exact .refl s
  | cons real reals ih =>
    exact Course.trans (.display h real s)
      (ih (s.withWrapper (s.world.wrapper.wrapDisplay real).2))

theorem eraseHandle (h : Handle) :
    Takes tracks [] (HandleLayer.eraseHandle h : CallM δ σ Unit) := fun s => .erase h s

theorem forward (request : Request) (room : Option Nat) :
    Takes tracks [request.command] (HandleLayer.forward request room : CallM δ σ Reply) := by
  intro s
  rw [run_forward]
  exact .ask request room s

end Takes

/-! ### Calls to a device -/

namespace Device

variable [NextLayer σ]

theorem takes_send (r : DeviceRequest) (room : Option Nat) :
    Takes True [r.command] (send r room : DeviceM σ (DeviceRequest × Reply)) := by
  intro s
  have hnoted : Course True [] s (s.see
      ((r.resolve s.world.wrapper s.object.own.toShadows).notices.map .notice)) :=
    Takes.note _ s
  have hasked : Course True _ _ _ := Course.ask
    (.ofDevice (r.resolve s.world.wrapper s.object.own.toShadows).value) room
    (s.see ((r.resolve s.world.wrapper s.object.own.toShadows).notices.map .notice))
  have hcommand : (Request.ofDevice
      (r.resolve s.world.wrapper s.object.own.toShadows).value).command = r.command :=
    r.command_resolve _ _
  rw [run_send]
  rw [hcommand] at hasked
  exact hnoted.trans hasked

theorem takes_relay (r : DeviceRequest) (out : Outputs) :
    Takes True [r.command] (relay r out : DeviceM σ (Result × Outputs)) :=
  (takes_send r _).followed fun _ => .pure _

theorem takes_dropSets (sets : List Handle) : Takes True [] (dropSets sets : DeviceM σ Unit) :=
  .forM (fun set => (Takes.eraseHandle set).bind fun _ => .announceDestroyed _ set) sets

theorem takes_mint (type : ObjectType) (real : Handle) {f : Handle → DeviceM σ α}
    (hf : ∀ h, Takes True [] (f h)) :
    Takes True [] (do
      let h ← HandleLayer.wrapNew real
      HandleLayer.announceCreated type h
      f h) :=
  (Takes.wrapNew real).bind fun h =>
    (Takes.announceCreated type h).bind fun _ => hf h

theorem takes_publishPipelines (reals : List Handle) :
    Takes True [] (publishPipelines reals : DeviceM σ (List Handle)) := by
  induction reals with
  | nil => exact .pure _
  | cons real reals ih => exact takes_mint .pipeline real fun h => ih.bind fun hs => .pure _

theorem takes_publishOutputs (count : Nat) (out : Outputs) :
    Takes True [] (publishOutputs count out : DeviceM σ Outputs) :=
  (takes_publishPipelines _).bind fun _ => .pure _

theorem takes_runCompletions (cs : List Completion) :
    Takes True [] (runCompletions cs : DeviceM σ (List Handle)) := by
  have hone : ∀ c, Takes True [] (runCompletion c : DeviceM σ (List Handle)) := by
    rintro (inputs | ⟨batch, produced⟩)
    · refine Takes.bind ?_ fun _ =>
        (Takes.emit rfl).bind fun _ => .pure _
      rcases inputs with ⟨batch, copies⟩ | sent | number
      · exact .modifyBatch _ _
      · exact .pure _
      · exact .pure _
    · exact (takes_publishPipelines _).bind fun _ =>
        (Takes.modifyBatch _ _).bind fun _ => .pure _
  induction cs with
  | nil => exact .pure _
  | cons c cs ih => exact (hone c).bind fun _ => ih.bind fun _ => .pure _

theorem takes_notifyReady (operation : Handle) (pipelines : List Handle) (kind : ObjectKind) :
    Takes True [] (notifyReady operation pipelines kind : DeviceM σ Unit) := by
  intro s
  rw [run_notifyReady]
  exact .ready operation pipelines kind s

theorem takes_destroyObject (kind : Destroyable) (h : Handle) :
    Takes True [kind.command] (destroyObject kind h : DeviceM σ Unit) :=
  (takes_send (.destroy kind h) none).followed fun _ =>
    (Takes.eraseHandle h).bind fun _ => .announceDestroyed _ h

theorem takes_destroy (kind : Destroyable) (h : Handle) :
    Takes True [kind.command] (destroy kind h : DeviceM σ Unit) := by
  cases kind with
  | descriptorPool =>
    refine Takes.getOwn.bind fun t => ?_
    refine (Takes.modifyOwn trivial _).bind fun _ => ?_
    exact (takes_dropSets _).bind fun _ => takes_destroyObject .descriptorPool h
  | swapchain =>
    refine Takes.getOwn.bind fun t => ?_
    refine (Takes.modifyOwn trivial _).bind fun _ => ?_
    refine (takes_send (.destroy .swapchain h) none).followed fun _ => ?_
    refine (Takes.eraseHandle h).bind fun _ => ?_
    refine (Takes.forM (fun image => .eraseHandle image) _).bind fun _ => ?_
    refine (Takes.forM (fun image => .announceDestroyed _ image) _).bind fun _ => ?_
    exact .announceDestroyed _ h
  | _ => exact takes_destroyObject _ h

theorem takes_silently {cs : List Command} {p : DeviceM σ Unit} (hp : Takes True cs p)
    (out : Outputs) : Takes True cs (silently p out : DeviceM σ (Result × Outputs)) :=
  hp.followed fun _ => .pure _

theorem takes_awaitOperation (r : DeviceRequest) (operation : Handle) (out : Outputs) :
    Takes True [r.command] (awaitOperation r operation out : DeviceM σ (Result × Outputs)) := by
  have hreceive : ∀ w, Takes True [] (receive w : DeviceM σ Unit) := by
    intro w
    refine Takes.wrapping.bind fun wraps => .ite ?_ (.modifyBatch _ _)
    refine (Takes.modifyOwn trivial _).bind fun _ => ?_
    refine Takes.getOwn.bind fun t => ?_
    split
    · exact .pure _
    · exact .modifyBatch _ _
  have hcomplete : ∀ result,
      Takes True [] (completeOperation operation result : DeviceM σ Unit) := by
    intro result
    refine .ite (Takes.getOwn.bind fun t => ?_) (.pure _)
    split
    · exact .pure _
    · refine (Takes.modifyOwn trivial _).bind fun _ => ?_
      refine (takes_runCompletions _).bind fun hs => ?_
      exact .forM (fun kind => takes_notifyReady _ _ kind) _
  refine (takes_send r none).followed fun ⟨sent, reply⟩ => ?_
  exact (Takes.forM hreceive _).bind fun _ => (hcomplete _).bind fun _ => .pure _

theorem takes_createRayTracingPipelines (batch : BatchId) (operation cache : Handle)
    (infos : AppArray RayTracingInfo) (out : Outputs) :
    Takes True [.createRayTracingPipelinesKhr]
      (createRayTracingPipelines batch operation cache infos out :
        DeviceM σ (Result × Outputs)) := by
  have hsend : Takes True [.createRayTracingPipelinesKhr]
      (send (.createRayTracingPipelines batch operation cache infos) (some infos.count) :
        DeviceM σ (DeviceRequest × Reply)) :=
    takes_send (.createRayTracingPipelines batch operation cache infos) _
  have hrelay : Takes True [.createRayTracingPipelinesKhr]
      (relay (.createRayTracingPipelines batch operation cache infos) out :
        DeviceM σ (Result × Outputs)) :=
    takes_relay (.createRayTracingPipelines batch operation cache infos) _
  refine Takes.wrapping.bind fun wraps => .ite (hsend.followed ?_) hrelay
  rintro ⟨sent, reply⟩
  refine .ite ?_ ((takes_publishOutputs _ _).bind fun _ => .pure _)
  refine Takes.validationChain.bind fun chain => ?_
  exact (Takes.modifyOwn trivial _).bind fun _ => .pure _

/-- **The part of a call to a device that can be skipped asks the next layer once.** -/
theorem takes_serve (r : DeviceRequest) (out : Outputs) :
    Takes True [r.command] (serve r out : DeviceM σ (Result × Outputs)) := by
  -- the request goes down first; no other follows, whatever the answer is
  cases r with
  | create info =>
    refine (takes_relay (.create info) _).followed fun ⟨result, out⟩ => ?_
    dsimp only
    split
    · exact .ite (takes_mint _ _ fun _ => .pure _) (.pure _)
    · exact .pure _
  | destroy kind h => exact takes_silently (takes_destroy kind h) out
  | releaseConfiguration h =>
    refine (takes_relay (.releaseConfiguration h) _).followed fun ⟨result, out⟩ => ?_
    refine .ite ?_ (.pure _)
    exact (Takes.eraseHandle h).bind fun _ =>
      (Takes.announceDestroyed _ h).bind fun _ => .pure _
  | resetDescriptorPool pool flags =>
    refine (takes_relay (.resetDescriptorPool pool flags) _).followed fun ⟨result, out⟩ => ?_
    refine .ite (Takes.getOwn.bind fun t => ?_) (.pure _)
    refine (Takes.modifyOwn trivial _).bind fun _ => ?_
    exact (takes_dropSets _).bind fun _ => .pure _
  | allocateSets pool layouts =>
    refine (takes_relay (.allocateSets pool layouts) _).followed fun ⟨result, out⟩ => ?_
    refine Takes.wrapping.bind fun wraps => ?_
    refine .ite ((Takes.wrapNewMany _).bind fun sets => ?_) (.pure _)
    refine (Takes.modifyOwn trivial _).bind fun _ => ?_
    exact (Takes.forM (fun set => .announceCreated _ set) _).bind fun _ => .pure _
  | freeSets pool sets =>
    refine (takes_relay (.freeSets pool sets) _).followed fun ⟨result, out⟩ => ?_
    refine Takes.wrapping.bind fun wraps => ?_
    refine .ite ((Takes.modifyOwn trivial _).bind fun _ => ?_) (.pure _)
    exact (takes_dropSets _).bind fun _ => .pure _
  | createGraphicsPipelines cache infos =>
    refine (takes_relay (.createGraphicsPipelines cache infos) _).followed fun ⟨result, out⟩ => ?_
    refine Takes.wrapping.bind fun wraps => ?_
    exact .ite ((takes_publishOutputs _ _).bind fun _ => .pure _) (.pure _)
  | createComputePipelines cache infos =>
    refine (takes_relay (.createComputePipelines cache infos) _).followed fun ⟨result, out⟩ => ?_
    refine Takes.wrapping.bind fun wraps => ?_
    exact .ite ((takes_publishOutputs _ _).bind fun _ => .pure _) (.pure _)
  | createRayTracingPipelines batch operation cache infos =>
    exact takes_createRayTracingPipelines batch operation cache infos out
  | allocateCommandBuffers pool level count =>
    refine (takes_relay (.allocateCommandBuffers pool level count) _).followed
      fun ⟨result, out⟩ => ?_
    exact .ite ((Takes.modifyOwn trivial _).bind fun _ => .pure _) (.pure _)
  | freeCommandBuffers pool buffers =>
    refine takes_silently ?_ out
    exact (takes_send (.freeCommandBuffers pool buffers) none).followed fun _ =>
      .modifyOwn trivial _
  | getSwapchainImages swapchain =>
    refine (takes_relay (.getSwapchainImages swapchain) _).followed fun ⟨result, out⟩ => ?_
    dsimp only
    split
    · exact .pure _
    · refine Takes.wrapping.bind fun wraps =>
        .ite (Takes.getOwn.bind fun t => ?_) (.pure _)
      refine (Takes.wrapNewMany _).bind fun fresh => ?_
      refine (Takes.modifyOwn trivial _).bind fun _ => ?_
      exact (Takes.forM (fun image => .announceCreated _ image) _).bind
        fun _ => .pure _
  | joinOperation operation => exact takes_awaitOperation (.joinOperation operation) operation out
  | queryOperation operation =>
    exact takes_awaitOperation (.queryOperation operation) operation out
  | buildStructures operation infos ranges =>
    refine (takes_send (.buildStructures operation infos ranges) none).followed
      fun ⟨sent, reply⟩ => ?_
    refine Takes.wrapping.bind fun wraps => ?_
    exact .ite ((Takes.modifyOwn trivial _).bind fun _ => .pure _) (.pure _)
  | _ => exact takes_relay _ out

omit [NextLayer σ] in
/-- What is seen to go before the validation objects are asked concerns none of them. -/
theorem all_isAside_lost (t : Tracked) (r : DeviceRequest) :
    (t.lost r).all Event.isAside = true := by
  unfold Tracked.lost
  split
  · split
    · rfl
    · next p hp =>
      rw [List.all_cons, List.all_map]
      exact List.all_eq_true.2 fun _ _ => rfl
  · rfl

omit [NextLayer σ] in
/-- Once a call is over, nothing is seen any more. -/
theorem exists_concluded (r : DeviceRequest) (result : Result) (out : Outputs)
    (s : Layer Tracked σ) :
    ∃ own memory, (conclude r result out).run s = ((), (s.withOwn own).withMemory memory) := by
  unfold conclude
  split
  · rw [run_bind_of (run_wrapping s)]
    split
    · split
      · exact ⟨_, s.world.memory, rfl⟩
      · exact ⟨s.object.own, s.world.memory, rfl⟩
    · exact ⟨s.object.own, s.world.memory, rfl⟩
  · exact ⟨s.object.own, _, rfl⟩
  · exact ⟨s.object.own, s.world.memory, rfl⟩

/-- **A call to a device that is not skipped**: what is seen of it, and the course in between. -/
theorem exists_course_perform {r : DeviceRequest} {s : Layer Tracked σ}
    (hveto : s.object.registry.chain.vetoes s.world.behaviour r.command = false)
    (out : Outputs) :
    let objects := s.object.registry.chain.intercepting r.command
    ∃ t own memory,
      Course True [r.command] ((s.withOwn (s.object.own.prepared r)).see (s.object.own.lost r ++
        toldBefore objects r.command)) t ∧
      ((perform r out).run s).2 = ((t.see
        (toldEach objects (.after r.command ((perform r out).run s).1.1))).withOwn own).withMemory
          memory := by
  intro objects
  have hrun : (perform r out).run s = _ := run_perform hveto
  dsimp only at hrun
  obtain ⟨own, memory, hconclude⟩ := exists_concluded r _ _ _
  rw [hconclude] at hrun
  refine ⟨_, own, memory, takes_serve r out _, ?_⟩
  rw [hrun]

end Device

/-! ### Calls to an instance -/

/-- Whether a request to an instance has anything to ask the next layer: the tools are not asked
for without room for one. -/
def InstanceRequest.asks (r : InstanceRequest) (out : Outputs) : Bool :=
  match r with
  | .tools .. => out.tools != some []
  | _ => true

namespace Instance

variable [NextLayer σ]

theorem command_resolve (w : Wrapper) (r : InstanceRequest) :
    (r.resolve w).command = r.command := by
  cases r with
  | modes query physicalDevice display => cases query <;> rfl
  | _ => rfl

theorem takes_relay (r : InstanceRequest) (out : Outputs) :
    Takes False [r.command] (relay r out : InstanceM σ (Result × Outputs)) := by
  intro s
  have hasked : Course False _ _ _ := Course.ask (.ofInstance (r.resolve s.world.wrapper))
    (out.slots.map List.length) s
  have hcommand : (Request.ofInstance (r.resolve s.world.wrapper)).command = r.command :=
    command_resolve _ r
  rw [hcommand] at hasked
  have hrun : ((relay r out).run s).2
      = ((forward (.ofInstance (r.resolve s.world.wrapper))
          (out.slots.map List.length)).run s).2 := rfl
  rw [hrun, run_forward]
  exact hasked

theorem takes_reportHandles (r : InstanceRequest)
    {wrap : List Handle → InstanceM σ (List Handle)} (hwrap : ∀ reals, Takes False [] (wrap reals))
    (out : Outputs) :
    Takes False [r.command] (reportHandles r wrap out : InstanceM σ (Result × Outputs)) := by
  refine (takes_relay r out).followed fun ⟨result, out⟩ => ?_
  dsimp only
  split
  · exact .pure _
  · exact .ite ((hwrap _).bind fun _ => .pure _) (.pure _)

/-- Tools are asked for once, if there is room for one. -/
theorem takes_reportTools (query : ToolQuery) (physicalDevice : Handle) (count : UInt32)
    (out : Outputs) :
    let r := InstanceRequest.tools query physicalDevice count
    Takes False (if r.asks out then [r.command] else [])
      (reportTools query physicalDevice out : InstanceM σ (Result × Outputs)) := by
  intro r
  have hcommand : ∀ n, (Request.ofInstance (.tools query physicalDevice n)).command = r.command :=
    fun n => by cases query <;> rfl
  have hask : ∀ n room, Takes False [r.command]
      (forward (.ofInstance (.tools query physicalDevice n)) room : InstanceM σ Reply) := by
    intro n room
    rw [← hcommand n]
    exact .forward _ _
  unfold reportTools InstanceRequest.asks
  cases out.tools with
  | none =>
    refine (hask 0 none).followed fun reply => ?_
    exact .ite (.pure _) (.ite (.pure _) (.pure _))
  | some slots =>
    cases slots with
    | nil => exact .pure _
    | cons first rest =>
      refine (hask _ (some rest.length)).followed fun reply => ?_
      exact .ite (.pure _) (.ite (.pure _) (.pure _))

/-- **The part of a call to an instance that can be skipped asks the next layer once**, if there
is anything to ask. -/
theorem takes_serve (r : InstanceRequest) (out : Outputs) :
    Takes False (if r.asks out then [r.command] else [])
      (serve r out : InstanceM σ (Result × Outputs)) := by
  cases r with
  | destroySurface surface =>
    intro s
    have hasked : Course False _ _ _ := Course.ask
      (.ofInstance ((InstanceRequest.destroySurface surface).resolve s.world.wrapper)) none s
    rw [run_destroySurface]
    exact hasked.trans (.trans (.erase surface _) (.destroyed .surface surface _))
  | displays query physicalDevice =>
    exact takes_reportHandles _ (fun reals => .wrapDisplayMany not_false reals) out
  | modes query physicalDevice display =>
    exact takes_reportHandles _ (fun reals => .wrapNewMany reals) out
  | tools query physicalDevice count => exact takes_reportTools query physicalDevice count out
  | _ => exact takes_relay _ out

/-- **A call to an instance that is not skipped**: what is seen of it, and the course in
between. -/
theorem exists_course_perform {r : InstanceRequest} {s : Layer Settings σ}
    (hveto : s.object.registry.chain.vetoes s.world.behaviour r.command = false)
    (out : Outputs) :
    let objects := s.object.registry.chain.intercepting r.command
    ∃ t, Course False (if r.asks out then [r.command] else [])
        (s.see (toldBefore objects r.command)) t ∧
      ((perform r out).run s).2
        = t.see (toldEach objects (.after r.command ((perform r out).run s).1.1)) := by
  intro objects
  have hrun : (perform r out).run s = _ := run_intercept hveto
  refine ⟨_, takes_serve r out _, ?_⟩
  rw [hrun]

end Instance

/-! ### What steps leave alone -/

/-- Whether it is the beginning or the end of a handle that is told. -/
def Hook.isLifetime : Hook → Bool
  | .created _ _ | .destroyed _ _ => true
  | _ => false

/-- What an event announces to all validation objects. -/
def Event.announced? : Event → Option Hook
  | .announced hook => some hook
  | _ => none

/-- The validation object that is told of the beginning or the end of a handle, with what it is
told. -/
def Event.lifetime? : Event → Option (ValidationObject × Hook)
  | .told o hook => if hook.isLifetime then some (o, hook) else none
  | _ => none

/-- Whether an event can be seen of the part of a call that can be skipped: handles that come
and go are announced to validation objects, pipelines to the first one of a kind, and nobody is
told of the call itself. -/
def Event.IsWithin (current : List ValidationObject) : Event → Prop
  | .announced hook => hook.isLifetime = true
  | .told o (.created _ _) | .told o (.destroyed _ _) => o ∈ current
  | .told o (.pipelinesReady _ _) =>
    ∃ kind : ObjectKind, current.find? (fun o => o.kind = kind) = some o
  | .told _ _ => False
  | _ => True

/-- What is seen of an object while requests with these commands go down, as far as the next
layer has the entry points. -/
structure Dispatch.Shows (d : Dispatch δ) (cs : List Command) (es : List Event) : Prop where
  within : ∀ e ∈ es, e.IsWithin d.registry.chain.objects
  /-- What is announced is told to every object, one after the other. -/
  lifetimes : es.filterMap Event.lifetime?
    = (es.filterMap Event.announced?).flatMap fun hook =>
      d.registry.chain.objects.map fun o => (o, hook)
  commands : (es.filterMap Event.call?).map (fun c => c.request.command)
    = cs.filter d.table.provides
  objects : ∀ c ∈ es.filterMap Event.call?, c.object = d.handle

theorem lifetimes_toldEach {hook : Hook} (hhook : hook.isLifetime = true)
    (objects : List ValidationObject) :
    (toldEach objects hook).filterMap Event.lifetime? = objects.map fun o => (o, hook) := by
  rw [toldEach, List.filterMap_map, ← List.filterMap_eq_map]
  exact List.filterMap_congr fun o _ => if_pos hhook

/-- Announcements are told to all the objects. -/
theorem lifetimes_announcements {hooks : List Hook}
    (hhooks : ∀ hook ∈ hooks, hook.isLifetime = true) (objects : List ValidationObject) :
    (announcements objects hooks).filterMap Event.lifetime?
      = hooks.flatMap fun hook => objects.map fun o => (o, hook) := by
  induction hooks with
  | nil => rfl
  | cons hook hooks ih =>
    have hfirst : (Event.announced hook :: toldEach objects hook).filterMap Event.lifetime?
        = objects.map fun o => (o, hook) :=
      lifetimes_toldEach (hhooks hook List.mem_cons_self) objects
    have hrest := ih fun hook' hmem => hhooks hook' (List.mem_cons_of_mem _ hmem)
    rw [List.flatMap_cons, ← hfirst, ← hrest, ← List.filterMap_append]
    rfl

namespace Dispatch.Shows

variable {d : Dispatch δ} {cs cs' : List Command} {es es' : List Event}

theorem append (h : d.Shows cs es) (h' : d.Shows cs' es') : d.Shows (cs ++ cs') (es ++ es') := by
  refine ⟨fun e he => ?_, ?_, ?_, fun c hc => ?_⟩
  · rcases List.mem_append.1 he with he | he
    · exact h.within e he
    · exact h'.within e he
  · rw [List.filterMap_append, List.filterMap_append, List.flatMap_append, h.lifetimes,
      h'.lifetimes]
  · rw [List.filterMap_append, List.map_append, h.commands, h'.commands, List.filter_append]
  · rw [List.filterMap_append] at hc
    rcases List.mem_append.1 hc with hc | hc
    · exact h.objects c hc
    · exact h'.objects c hc

/-- Events among which there is no call. -/
theorem of_no_call (hwithin : ∀ e ∈ es, e.IsWithin d.registry.chain.objects)
    (hlifetimes : es.filterMap Event.lifetime?
      = (es.filterMap Event.announced?).flatMap fun hook =>
        d.registry.chain.objects.map fun o => (o, hook))
    (hcall : es.filterMap Event.call? = []) : d.Shows [] es := by
  refine ⟨hwithin, hlifetimes, ?_, ?_⟩
  · rw [hcall]
    rfl
  · rw [hcall]
    exact fun c hc => absurd hc List.not_mem_nil

/-- Events that have nothing to do with the validation objects or the next layer. -/
theorem of_isAside (hes : es.all Event.isAside = true) : d.Shows [] es := by
  have hnone : ∀ {β : Type} {f : Event → Option β}, (∀ e, e.isAside = true → f e = none) →
      es.filterMap f = [] :=
    fun hf => List.filterMap_eq_nil_iff.2 fun e he => hf e (List.all_eq_true.1 hes e he)
  have hlifetime : es.filterMap Event.lifetime? = [] := hnone fun e he => by
    cases e with
    | told => cases he
    | _ => rfl
  have hannounced : es.filterMap Event.announced? = [] := hnone fun e he => by
    cases e with
    | announced => cases he
    | _ => rfl
  refine .of_no_call (fun e he => ?_) ?_ (hnone fun e he => ?_)
  · have haside := List.all_eq_true.1 hes e he
    cases e with
    | told | announced | call => cases haside
    | _ => trivial
  · rw [hlifetime, hannounced]
    rfl
  · cases e with
    | call => cases he
    | _ => rfl

/-- Announcements to all validation objects there are. -/
theorem of_announcements {hooks : List Hook} (hhooks : ∀ hook ∈ hooks, hook.isLifetime = true) :
    d.Shows [] (announcements d.registry.chain.objects hooks) := by
  refine .of_no_call (fun e he => ?_) ?_ ?_
  · obtain ⟨hook, hmem, he⟩ := List.mem_flatMap.1 he
    have hhook := hhooks hook hmem
    rcases List.mem_cons.1 he with rfl | he
    · exact hhook
    · obtain ⟨o, ho, rfl⟩ := List.mem_map.1 he
      cases hook with
      | created | destroyed => exact ho
      | _ => cases hhook
  · rw [lifetimes_announcements hhooks, filterMap_announcements fun _ _ => rfl]
    exact congrArg (List.flatMap _) List.filterMap_some.symm
  · exact filterMap_call?_announcements _ hooks

/-- The first object of a kind, if there is one, is told that pipelines are ready. -/
theorem of_ready (operation : Handle) (pipelines : List Handle) (kind : ObjectKind) :
    d.Shows [] (toldEach (d.registry.chain.get? kind).toList
      (.pipelinesReady operation pipelines)) := by
  refine .of_no_call (fun e he => ?_) ?_ (filterMap_toldEach (fun _ => rfl) _)
  · obtain ⟨o, ho, rfl⟩ := List.mem_map.1 he
    exact ⟨kind, Option.mem_toList.1 ho⟩
  · rw [filterMap_toldEach fun _ => rfl, filterMap_toldEach fun _ => rfl]
    rfl

theorem of_withOwn {own : δ} (h : (d.withOwn own).Shows cs es) : d.Shows cs es :=
  ⟨h.within, h.lifetimes, h.commands, h.objects⟩

end Dispatch.Shows

/-- What one step may do to the surrogates, where displays may be shown or may not. -/
inductive Wrapper.Step (shows : Prop) : Wrapper → Wrapper → Prop
  | mint (real : Handle) (w : Wrapper) : Step shows w (w.wrapNew real).2
  | display (h : shows) (real : Handle) (w : Wrapper) : Step shows w (w.wrapDisplay real).2
  | erase (h : Handle) (w : Wrapper) : Step shows w (w.erase h)

namespace Course

variable [NextLayer σ] {tracks : Prop} {cs : List Command} {s t : Layer δ σ}

/-- Nothing changes of an object but what it has of its own. -/
theorem object_eq (h : Course tracks cs s t) : t.object = s.object.withOwn t.object.own := by
  induction h with
  | trans _ _ ih ih' =>
    rw [ih', ih]
    rfl
  | ask request room s =>
    rw [Layer.object_ask]
    rfl
  | _ => rfl

/-- An object that makes no changes keeps what it has of its own. -/
theorem own_eq (h : Course False cs s t) : t.object.own = s.object.own := by
  induction h with
  | trans _ _ ih ih' => rw [ih', ih]
  | edit h => exact h.elim
  | ask request room s => rw [Layer.object_ask]
  | _ => rfl

theorem behaviour_eq (h : Course tracks cs s t) : t.world.behaviour = s.world.behaviour := by
  induction h with
  | trans _ _ ih ih' => rw [ih', ih]
  | ask request room s =>
    unfold Layer.ask
    split <;> rfl
  | _ => rfl

/-- The surrogates change step by step. -/
theorem wrapper (h : Course tracks cs s t) :
    Relation.ReflTransGen (Wrapper.Step (¬ tracks)) s.world.wrapper t.world.wrapper := by
  induction h with
  | trans _ _ ih ih' => exact ih.trans ih'
  | mint real s => exact .single (.mint real _)
  | display h real s => exact .single (.display h real _)
  | erase h s => exact .single (.erase h _)
  | ask request room s =>
    rw [Layer.wrapper_ask]
  | _ => exact .refl

/-- **What is seen of a course.** -/
theorem events (h : Course tracks cs s t) :
    ∃ es, t.world.events = s.world.events ++ es ∧ s.object.Shows cs es := by
  have hnone : ∀ s : Layer δ σ, s.world.events = s.world.events ++ [] ∧ s.object.Shows [] [] :=
    fun s => ⟨(List.append_nil _).symm, .of_isAside rfl⟩
  -- no other handles are announced than those that come or go
  have hhooks : ∀ {hook : Handle → Hook} (hs : List Handle), (∀ h, (hook h).isLifetime = true) →
      ∀ hook' ∈ hs.map hook, hook'.isLifetime = true := by
    intro hook hs hlifetime hook' hmem
    obtain ⟨h, -, rfl⟩ := List.mem_map.1 hmem
    exact hlifetime h
  induction h with
  | refl s => exact ⟨[], hnone s⟩
  | @trans cs cs' s t u hst htu ih ih' =>
    obtain ⟨es, hes, hshows⟩ := ih
    obtain ⟨es', hes', hshows'⟩ := ih'
    rw [hst.object_eq] at hshows'
    refine ⟨es ++ es', ?_, hshows.append hshows'.of_withOwn⟩
    rw [hes', hes, List.append_assoc]
  | edit h own s => exact ⟨[], hnone s⟩
  | store memory s => exact ⟨[], hnone s⟩
  | @aside es hes s => exact ⟨es, World.events_see es s.world, .of_isAside hes⟩
  | created type h s =>
    exact ⟨_, World.events_see _ s.world, .of_announcements (hhooks _ fun _ => rfl)⟩
  | destroyed type h s =>
    exact ⟨_, World.events_see _ s.world, .of_announcements (hhooks _ fun _ => rfl)⟩
  | ready operation pipelines kind s =>
    exact ⟨_, World.events_see _ s.world, .of_ready operation pipelines kind⟩
  | mint real s => exact ⟨[], hnone s⟩
  | display h real s => exact ⟨[], hnone s⟩
  | erase h s => exact ⟨[], hnone s⟩
  -- the call is seen only if the next layer has the entry point
  | ask request room s =>
    unfold Layer.ask
    split
    · next hprovides =>
      refine ⟨[.call ⟨s.object.handle, request, room⟩], World.events_see _ s.world, ?_, rfl, ?_,
        ?_⟩
      · intro e he
        rw [List.mem_singleton.1 he]
        trivial
      · rw [List.filter_cons_of_pos hprovides]
        rfl
      · intro c hc
        rw [List.mem_singleton.1 hc]
    · next hprovides =>
      refine ⟨[], (List.append_nil _).symm, fun e he => absurd he List.not_mem_nil, rfl, ?_,
        fun c hc => absurd hc List.not_mem_nil⟩
      rw [List.filter_cons_of_neg hprovides]
      rfl

end Course

/-! ### What calls do to surrogates -/

section Calls

variable [NextLayer σ]

/-- A call to a device changes the surrogates step by step, and shows no displays. -/
theorem Device.steps_perform (r : DeviceRequest) (out : Outputs) (s : Layer Tracked σ) :
    Relation.ReflTransGen (Wrapper.Step (¬ True)) s.world.wrapper
      ((perform r out).run s).2.world.wrapper := by
  cases hveto : s.object.registry.chain.vetoes s.world.behaviour r.command with
  | true =>
    rw [run_perform_of_vetoes hveto]
    exact .refl
  | false =>
    obtain ⟨t, own, memory, hcourse, hrun⟩ := exists_course_perform hveto out
    rw [hrun]
    exact hcourse.wrapper

/-- A call to the instance may show some. -/
theorem Instance.steps_perform (r : InstanceRequest) (out : Outputs) (s : Layer Settings σ) :
    Relation.ReflTransGen (Wrapper.Step (¬ False)) s.world.wrapper
      ((perform r out).run s).2.world.wrapper := by
  cases hveto : s.object.registry.chain.vetoes s.world.behaviour r.command with
  | true =>
    rw [run_perform_of_vetoes hveto]
    exact .refl
  | false =>
    obtain ⟨t, hcourse, hrun⟩ := exists_course_perform hveto out
    rw [hrun]
    exact hcourse.wrapper

end Calls

/-! ### What calls leave alone -/

/-- A call to a device does not change its validation objects or how objects answer. -/
theorem Device.registry_perform [NextLayer σ] (r : DeviceRequest) (out : Outputs)
    (s : Layer Tracked σ) :
    ((perform r out).run s).2.object.registry = s.object.registry ∧
      ((perform r out).run s).2.world.behaviour = s.world.behaviour := by
  cases hveto : s.object.registry.chain.vetoes s.world.behaviour r.command with
  | true =>
    rw [run_perform_of_vetoes hveto]
    exact ⟨rfl, rfl⟩
  | false =>
    obtain ⟨t, own, memory, hcourse, hrun⟩ := exists_course_perform hveto out
    rw [hrun]
    refine ⟨?_, hcourse.behaviour_eq⟩
    show t.object.registry = _
    rw [hcourse.object_eq]
    rfl

/-- A call to an instance changes nothing of the instance or of how objects answer. -/
theorem Instance.object_perform [NextLayer σ] (r : InstanceRequest) (out : Outputs)
    (s : Layer Settings σ) :
    ((perform r out).run s).2.object = s.object ∧
      ((perform r out).run s).2.world.behaviour = s.world.behaviour := by
  cases hveto : s.object.registry.chain.vetoes s.world.behaviour r.command with
  | true =>
    rw [run_perform_of_vetoes hveto]
    exact ⟨rfl, rfl⟩
  | false =>
    obtain ⟨t, hcourse, hrun⟩ := exists_course_perform hveto out
    rw [hrun]
    refine ⟨?_, hcourse.behaviour_eq⟩
    show t.object = _
    rw [hcourse.object_eq, hcourse.own_eq]
    rfl

/-- In front of a new device there are the validation objects that it was given. -/
theorem Instance.registry_startDevice [NextLayer σ] (physicalDevice device : Handle)
    (table : EntryTable) (objects : List ValidationObject) (s : Layer Settings σ) :
    ((startDevice physicalDevice device table objects).run s).1.registry
        = (Registry.new s.world.behaviour s.object.own objects).value ∧
      ((startDevice physicalDevice device table objects).run s).2.object = s.object ∧
      ((startDevice physicalDevice device table objects).run s).2.world.behaviour
        = s.world.behaviour := by
  let asked := s.ask (.ofInstance (.physicalDeviceProperties physicalDevice)) none
  have hasked : Course False _ s asked :=
    .ask (.ofInstance (.physicalDeviceProperties physicalDevice)) none s
  have hobject : asked.object = s.object := Layer.object_ask s _ _
  unfold startDevice
  rw [run_bind_of (run_forward _ _ s)]
  refine ⟨?_, hobject, hasked.behaviour_eq⟩
  show (Registry.new asked.world.behaviour asked.object.own objects).value = _
  rw [hobject, hasked.behaviour_eq]

end HandleLayer
