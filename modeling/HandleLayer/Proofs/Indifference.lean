import HandleLayer.Proofs.Announcements
import HandleLayer.Proofs.Edits

/-!
# Programs that have nothing to do with deferred operations

Most programs do not look at what waits for deferred operations, and leave it alone.  They do
the same whatever waits, and tell nobody that anything is ready.

## Main definitions

* `Event.isRoutine`, `Event.ready?` — events that are part of any call, and the operation whose
  pipelines an event says are ready.
* `Tracked.withDeferred`, `Layer.withDeferred` — the state with something else waiting.
* `Ignores` — programs that have nothing to do with deferred operations.
* `DeviceRequest.defers?`, `DeviceRequest.operation?` — the operation that a request puts
  work off under, and the one that it is about.

## Main results

* `Ignores.deferred_eq` — a program that ignores what waits leaves it alone.
* `Device.ignores_perform` — **a call that is about no operation ignores what waits.**
-/

namespace HandleLayer

variable {σ α β γ : Type}

/-! ### Events -/

/-- Whether an event is part of any call: objects are told of the call itself, the next layer
is called, something is written to the log. -/
def Event.isRoutine : Event → Bool
  | .told _ (.validate _) | .told _ (.before _) | .told _ (.after _ _) => true
  | .call _ | .notice _ => true
  | _ => false

/-- The operation whose pipelines an event says are ready. -/
def Event.ready? : Event → Option Handle
  | .told _ (.pipelinesReady operation _) => some operation
  | _ => none

theorem Event.ready?_of_isRoutine {e : Event} (h : e.isRoutine = true) : e.ready? = none := by
  cases e with
  | told object hook =>
    cases hook with
    | pipelinesReady => cases h
    | _ => rfl
  | _ => rfl

theorem all_isRoutine_toldEach {hook : Hook} (h : ∀ o, (Event.told o hook).isRoutine = true)
    (objects : List ValidationObject) : (toldEach objects hook).all Event.isRoutine = true := by
  rw [toldEach, List.all_map]
  exact List.all_eq_true.2 fun o _ => h o

theorem all_isRoutine_toldBefore (objects : List ValidationObject) (command : Command) :
    (toldBefore objects command).all Event.isRoutine = true := by
  rw [toldBefore, List.all_append, all_isRoutine_toldEach fun _ => rfl,
    all_isRoutine_toldEach fun _ => rfl]
  rfl

/-- What is seen while a request goes down is part of any call. -/
theorem Device.exists_events_sent [NextLayer σ] (r : DeviceRequest) (room : Option Nat)
    (s : Layer Tracked σ) :
    ∃ es, es.all Event.isRoutine = true ∧
      (sent r room s).world.events = s.world.events ++ es := by
  have hask : ∀ (t : Layer Tracked σ) (request : Request), ∃ es, es.all Event.isRoutine = true ∧
      (t.ask request room).world.events = t.world.events ++ es := by
    intro t request
    unfold Layer.ask
    split
    · exact ⟨[.call ⟨t.object.handle, request, room⟩], rfl, World.events_see _ t.world⟩
    · exact ⟨[], rfl, (List.append_nil _).symm⟩
  let resolved := r.resolve s.world.wrapper s.object.own.toShadows
  obtain ⟨es, hroutine, hes⟩ :=
    hask (s.see (resolved.notices.map .notice)) (.ofDevice resolved.value)
  refine ⟨resolved.notices.map .notice ++ es, ?_, ?_⟩
  · rw [List.all_append, hroutine, Bool.and_true, List.all_map]
    exact List.all_eq_true.2 fun _ _ => rfl
  · have hseen : (s.see (resolved.notices.map .notice)).world.events
        = s.world.events ++ resolved.notices.map .notice := World.events_see _ s.world
    rw [← List.append_assoc, ← hseen]
    exact hes

/-! ### Programs that have nothing to do with what waits -/

/-- What a device keeps, with something else waiting. -/
def Tracked.withDeferred (d : DeferredOperations) (t : Tracked) : Tracked :=
  { t with deferred := d }

/-- The state with something else waiting. -/
def Layer.withDeferred (d : DeferredOperations) (s : Layer Tracked σ) : Layer Tracked σ :=
  s.withOwn (s.object.own.withDeferred d)

@[simp] theorem Layer.withDeferred_deferred (s : Layer Tracked σ) :
    s.withDeferred s.object.own.deferred = s := rfl

/-- A program that has nothing to do with deferred operations: it does the same whatever
waits, and nobody is told that pipelines are ready. -/
structure Ignores (p : DeviceM σ α) : Prop where
  same : ∀ (s : Layer Tracked σ) (d : DeferredOperations),
    p.run (s.withDeferred d) = ((p.run s).1, (p.run s).2.withDeferred d)
  mute : ∀ s : Layer Tracked σ, ∃ es, (∀ e ∈ es, Event.ready? e = none) ∧
    (p.run s).2.world.events = s.world.events ++ es

namespace Ignores

/-- What is ignored is left alone. -/
theorem deferred_eq {p : DeviceM σ α} (hp : Ignores p) (s : Layer Tracked σ) :
    (p.run s).2.object.own.deferred = s.object.own.deferred := by
  -- what is put in before the program runs is still there afterwards; put in what was there
  have hsame := hp.same s s.object.own.deferred
  rw [Layer.withDeferred_deferred] at hsame
  have hstate : (p.run s).2 = (p.run s).2.withDeferred s.object.own.deferred :=
    congrArg Prod.snd hsame
  rw [hstate]
  rfl

/-! ### Parts of programs -/

/-- A program during which nothing is seen. -/
theorem of_unseen {p : DeviceM σ α}
    (hsame : ∀ (s : Layer Tracked σ) (d : DeferredOperations),
      p.run (s.withDeferred d) = ((p.run s).1, (p.run s).2.withDeferred d))
    (hunseen : ∀ s, (p.run s).2.world.trace = s.world.trace) : Ignores p := by
  refine ⟨hsame, fun s => ⟨[], fun e he => absurd he List.not_mem_nil, ?_⟩⟩
  rw [World.events, hunseen s, List.append_nil]
  rfl

theorem pure (a : α) : Ignores (Pure.pure a : DeviceM σ α) :=
  of_unseen (fun _ _ => rfl) fun _ => rfl

theorem bind {p : DeviceM σ α} {f : α → DeviceM σ β} (hp : Ignores p)
    (hf : ∀ a, Ignores (f a)) : Ignores (p >>= f) := by
  refine ⟨fun s d => ?_, fun s => ?_⟩
  · rw [run_bind, run_bind, hp.same s d]
    exact (hf (p.run s).1).same (p.run s).2 d
  · obtain ⟨es, hes, hevents⟩ := hp.mute s
    obtain ⟨es', hes', hevents'⟩ := (hf (p.run s).1).mute (p.run s).2
    refine ⟨es ++ es', fun e he => (List.mem_append.1 he).elim (hes e) (hes' e), ?_⟩
    rw [run_bind, hevents', hevents, List.append_assoc]

theorem ite {c : Prop} [Decidable c] {p q : DeviceM σ α} (hp : Ignores p) (hq : Ignores q) :
    Ignores (if c then p else q) := by
  split
  · exact hp
  · exact hq

theorem forM {f : β → DeviceM σ Unit} (hf : ∀ b, Ignores (f b)) (bs : List β) :
    Ignores (bs.forM f) := by
  induction bs with
  | nil => exact pure ()
  | cons b bs ih => exact (hf b).bind fun _ => ih

/-- A look at what is kept, but not at what waits. -/
theorem getOwn_bind {f : Tracked → DeviceM σ β}
    (hsame : ∀ t d, f (Tracked.withDeferred d t) = f t) (hf : ∀ t, Ignores (f t)) :
    Ignores (HandleLayer.getOwn >>= f) := by
  refine ⟨fun s d => ?_, fun s => (hf s.object.own).mute s⟩
  have hrun : ∀ t : Layer Tracked σ, (HandleLayer.getOwn >>= f).run t = (f t.object.own).run t :=
    fun t => rfl
  have hown : f (s.withDeferred d).object.own = f s.object.own := hsame s.object.own d
  rw [hrun, hrun, hown]
  exact (hf s.object.own).same s d

/-- A change of what is kept that has nothing to do with what waits. -/
theorem modifyOwn {f : Tracked → Tracked}
    (hf : ∀ t d, f (Tracked.withDeferred d t) = (f t).withDeferred d) :
    Ignores (HandleLayer.modifyOwn f : DeviceM σ Unit) := by
  refine of_unseen (fun s d => ?_) fun _ => rfl
  have hown : f (s.withDeferred d).object.own = (f s.object.own).withDeferred d :=
    hf s.object.own d
  rw [run_modifyOwn, run_modifyOwn, hown]
  rfl

theorem modifyBatch (batch : BatchId) (f : Batch → Batch) :
    Ignores (HandleLayer.modifyBatch batch f : DeviceM σ Unit) :=
  of_unseen (fun _ _ => rfl) fun _ => rfl

theorem emit {events : List Event} (h : ∀ e ∈ events, e.ready? = none) :
    Ignores (HandleLayer.emit events : DeviceM σ Unit) :=
  ⟨fun _ _ => rfl, fun s => ⟨events, h, World.events_see events s.world⟩⟩

theorem notify {hook : Hook} (h : ∀ o, (Event.told o hook).ready? = none)
    (object : ValidationObject) : Ignores (HandleLayer.notify hook object : DeviceM σ Unit) :=
  emit fun e he => by rw [List.mem_singleton.1 he, h]

theorem tell {hook : Hook} (h : ∀ o, (Event.told o hook).ready? = none)
    (objects : List ValidationObject) :
    Ignores (HandleLayer.tell objects hook : DeviceM σ Unit) :=
  forM (notify h) objects

theorem wrapping : Ignores (HandleLayer.wrapping : DeviceM σ Bool) :=
  of_unseen (fun _ _ => rfl) fun _ => rfl

theorem validationChain : Ignores (HandleLayer.validationChain : DeviceM σ ValidationChain) :=
  of_unseen (fun _ _ => rfl) fun _ => rfl

theorem wrapNew (real : Handle) : Ignores (HandleLayer.wrapNew real : DeviceM σ Handle) :=
  of_unseen (fun _ _ => rfl) fun _ => rfl

theorem wrapNewMany (reals : List Handle) :
    Ignores (HandleLayer.wrapNewMany reals : DeviceM σ (List Handle)) :=
  of_unseen (fun _ _ => rfl) fun _ => rfl

theorem eraseHandle (h : Handle) : Ignores (HandleLayer.eraseHandle h : DeviceM σ Unit) :=
  of_unseen (fun _ _ => rfl) fun _ => rfl

theorem announce {hook : Hook} (h : ∀ o, (Event.told o hook).ready? = none) :
    Ignores (HandleLayer.announce hook : DeviceM σ Unit) := by
  refine (emit fun e he => ?_).bind fun _ => validationChain.bind fun chain => tell h _
  rw [List.mem_singleton.1 he]
  rfl

theorem announceCreated (type : ObjectType) (h : Handle) :
    Ignores (HandleLayer.announceCreated type h : DeviceM σ Unit) :=
  ite (announce fun _ => rfl) (pure ())

theorem announceDestroyed (type : ObjectType) (h : Handle) :
    Ignores (HandleLayer.announceDestroyed type h : DeviceM σ Unit) :=
  ite (announce fun _ => rfl) (pure ())

theorem foldlM {f : β → γ → DeviceM σ β} (hf : ∀ b c, Ignores (f b c)) (cs : List γ) (b : β) :
    Ignores (cs.foldlM f b) := by
  induction cs generalizing b with
  | nil => exact pure b
  | cons c cs ih => exact (hf b c).bind ih

theorem askToSkip (chain : ValidationChain) (command : Command) :
    Ignores (HandleLayer.askToSkip chain command : DeviceM σ Bool) := by
  refine foldlM (fun skip object => ?_) _ _
  -- the answer of an object is read off the state and changes nothing
  exact ((notify (fun _ => rfl) object).bind fun _ => of_unseen (fun _ _ => rfl) fun _ => rfl).bind
    fun _ => pure _

theorem intercept {command : Command} {skipped : α} {body : DeviceM σ (Result × α)}
    (hbody : Ignores body) : Ignores (HandleLayer.intercept command skipped body) := by
  refine validationChain.bind fun chain => (askToSkip chain command).bind fun skip => ?_
  refine ite (pure _) ((tell (fun _ => rfl) _).bind fun _ => hbody.bind fun p => ?_)
  exact (tell (fun _ => rfl) _).bind fun _ => pure _

end Ignores

/-! ### Calls to a device -/

namespace DeviceRequest

/-- The operation that the work of a request may be put off under. -/
def defers? : DeviceRequest → Option Handle
  | .createRayTracingPipelines _ operation _ _ | .buildStructures operation _ _ =>
    some operation
  | _ => none

/-- The deferred operation that a request is about. -/
def operation? : DeviceRequest → Option Handle
  | .destroy .deferredOperation operation => some operation
  | r => r.defers?.or r.awaits?

end DeviceRequest

namespace Device

theorem ignores_dropSets (sets : List Handle) : Ignores (dropSets sets : DeviceM σ Unit) :=
  .forM (fun h => (Ignores.eraseHandle h).bind fun _ => .announceDestroyed _ _) sets

theorem ignores_publishPipelines (reals : List Handle) :
    Ignores (publishPipelines reals : DeviceM σ (List Handle)) := by
  induction reals with
  | nil => exact .pure _
  | cons real reals ih =>
    refine (Ignores.wrapNew real).bind fun h => (Ignores.announceCreated _ h).bind fun _ => ?_
    exact ih.bind fun _ => .pure _

theorem ignores_publishOutputs (count : Nat) (out : Outputs) :
    Ignores (publishOutputs count out : DeviceM σ Outputs) :=
  (ignores_publishPipelines _).bind fun _ => .pure _

theorem ignores_runCompletions (cs : List Completion) :
    Ignores (runCompletions cs : DeviceM σ (List Handle)) := by
  have hone : ∀ c, Ignores (runCompletion c : DeviceM σ (List Handle)) := by
    intro c
    cases c with
    | release inputs =>
      refine Ignores.bind ?_ fun _ => (Ignores.emit ?_).bind fun _ => .pure _
      · cases inputs with
        | chains batch copies => exact .modifyBatch batch _
        | _ => exact .pure _
      · simp [Event.ready?]
    | publish batch produced =>
      refine (ignores_publishPipelines produced).bind fun _ => ?_
      exact (Ignores.modifyBatch batch _).bind fun _ => .pure _
  induction cs with
  | nil => exact .pure _
  | cons c cs ih => exact (hone c).bind fun _ => ih.bind fun _ => .pure _

theorem ignores_prepare {r : DeviceRequest} (hr : r.operation? = none) :
    Ignores (prepare r : DeviceM σ Unit) := by
  cases r with
  | destroy kind h =>
    cases kind with
    | renderPass | updateTemplate | commandPool => exact .modifyOwn fun _ _ => rfl
    | deferredOperation => cases hr
    | _ => exact .pure _
  | _ => exact .pure _

theorem ignores_conclude (r : DeviceRequest) (result : Result) (out : Outputs) :
    Ignores (conclude r result out : DeviceM σ Unit) := by
  cases r with
  | create info =>
    refine Ignores.wrapping.bind fun _ => .ite ?_ (.pure _)
    split
    · refine .modifyOwn fun t d => ?_
      cases info <;> rfl
    · exact .pure _
  | createRayTracingPipelines => exact .of_unseen (fun _ _ => rfl) fun _ => rfl
  | _ => exact .pure _

variable [NextLayer σ]

/-- Requests are resolved and handed down without regard to what waits. -/
theorem ignores_send (r : DeviceRequest) (room : Option Nat) :
    Ignores (send r room : DeviceM σ (DeviceRequest × Reply)) := by
  have hask : ∀ (s : Layer Tracked σ) (request : Request) (d : DeferredOperations),
      (s.withDeferred d).ask request room = (s.ask request room).withDeferred d := by
    intro s request d
    have hprovides : (s.withDeferred d).object.table.provides request.command
        = s.object.table.provides request.command := rfl
    unfold Layer.ask
    rw [hprovides]
    split <;> rfl
  refine ⟨fun s d => ?_, fun s => ?_⟩
  · have hsent : sent r room (s.withDeferred d) = (sent r room s).withDeferred d :=
      let resolved := r.resolve s.world.wrapper s.object.own.toShadows
      hask (s.see (resolved.notices.map .notice)) (.ofDevice resolved.value) d
    rw [run_send, run_send, hsent]
    rfl
  · obtain ⟨es, hroutine, hes⟩ := exists_events_sent r room s
    refine ⟨es, fun e he => Event.ready?_of_isRoutine (List.all_eq_true.1 hroutine e he), ?_⟩
    rw [run_send, hes]

theorem ignores_relay (r : DeviceRequest) (out : Outputs) :
    Ignores (relay r out : DeviceM σ (Result × Outputs)) :=
  (ignores_send r _).bind fun _ => .pure _

theorem ignores_createObject (info : CreateInfo) (out : Outputs) :
    Ignores (createObject info out : DeviceM σ (Result × Outputs)) := by
  refine (ignores_relay _ _).bind fun ⟨result, out⟩ => ?_
  dsimp only
  split
  · refine .ite ((Ignores.wrapNew _).bind fun _ => ?_) (.pure _)
    exact (Ignores.announceCreated _ _).bind fun _ => .pure _
  · exact .pure _

theorem ignores_destroyObject (kind : Destroyable) (h : Handle) :
    Ignores (destroyObject kind h : DeviceM σ Unit) :=
  (ignores_send _ _).bind fun _ => (Ignores.eraseHandle h).bind fun _ => .announceDestroyed _ _

theorem ignores_destroy (kind : Destroyable) (h : Handle) :
    Ignores (destroy kind h : DeviceM σ Unit) := by
  cases kind with
  | descriptorPool =>
    refine .getOwn_bind (fun _ _ => rfl) fun t => ?_
    refine (Ignores.modifyOwn fun _ _ => rfl).bind fun _ => ?_
    exact (ignores_dropSets _).bind fun _ => ignores_destroyObject _ _
  | swapchain =>
    refine .getOwn_bind (fun _ _ => rfl) fun t => ?_
    refine (Ignores.modifyOwn fun _ _ => rfl).bind fun _ => (ignores_send _ _).bind fun _ => ?_
    refine (Ignores.eraseHandle _).bind fun _ => (Ignores.forM Ignores.eraseHandle _).bind ?_
    exact fun _ => (Ignores.forM (Ignores.announceDestroyed _) _).bind
      fun _ => .announceDestroyed _ _
  | _ => exact ignores_destroyObject _ h

theorem ignores_createPipelines (r : DeviceRequest) (count : Nat) (out : Outputs) :
    Ignores (createPipelines r count out : DeviceM σ (Result × Outputs)) := by
  refine (ignores_relay _ _).bind fun ⟨result, out⟩ => Ignores.wrapping.bind fun _ => ?_
  exact .ite ((ignores_publishOutputs count out).bind fun _ => .pure _) (.pure _)

/-- The part of a call that can be skipped, where nothing is put off or asked for. -/
theorem ignores_serve {r : DeviceRequest} (hdefers : r.defers? = none)
    (hawaits : r.awaits? = none) (out : Outputs) :
    Ignores (serve r out : DeviceM σ (Result × Outputs)) := by
  cases r with
  -- along the steps of each call: none of them reads what waits, and what is written
  -- of the layer's own lies beside it
  | create info => exact ignores_createObject info out
  | destroy kind h => exact (ignores_destroy kind h).bind fun _ => .pure _
  | releaseConfiguration h =>
    refine (ignores_relay _ _).bind fun ⟨result, out⟩ => .ite ?_ (.pure _)
    refine (Ignores.eraseHandle h).bind fun _ => ?_
    exact (Ignores.announceDestroyed _ _).bind fun _ => .pure _
  | resetDescriptorPool pool flags =>
    refine (ignores_relay _ _).bind fun ⟨result, out⟩ => .ite ?_ (.pure _)
    refine .getOwn_bind (fun _ _ => rfl) fun t => ?_
    refine (Ignores.modifyOwn fun _ _ => rfl).bind fun _ => ?_
    exact (ignores_dropSets _).bind fun _ => .pure _
  | allocateSets pool layouts =>
    refine (ignores_relay _ _).bind fun ⟨result, out⟩ => Ignores.wrapping.bind fun _ => ?_
    refine .ite ((Ignores.wrapNewMany _).bind fun sets => ?_) (.pure _)
    refine (Ignores.modifyOwn fun _ _ => rfl).bind fun _ => ?_
    exact (Ignores.forM (Ignores.announceCreated _) sets).bind fun _ => .pure _
  | freeSets pool sets =>
    refine (ignores_relay _ _).bind fun ⟨result, out⟩ => Ignores.wrapping.bind fun _ => ?_
    refine .ite ((Ignores.modifyOwn fun _ _ => rfl).bind fun _ => ?_) (.pure _)
    exact (ignores_dropSets _).bind fun _ => .pure _
  | createGraphicsPipelines => exact ignores_createPipelines _ _ out
  | createComputePipelines => exact ignores_createPipelines _ _ out
  | allocateCommandBuffers pool level count =>
    refine (ignores_relay _ _).bind fun ⟨result, out⟩ => .ite ?_ (.pure _)
    exact (Ignores.modifyOwn fun _ _ => rfl).bind fun _ => .pure _
  | freeCommandBuffers pool buffers =>
    refine Ignores.bind ?_ fun _ => .pure _
    exact (ignores_send _ _).bind fun _ => .modifyOwn fun _ _ => rfl
  | getSwapchainImages swapchain =>
    refine (ignores_relay _ _).bind fun ⟨result, out⟩ => ?_
    dsimp only
    split
    · exact .pure _
    · refine Ignores.wrapping.bind fun _ => .ite ?_ (.pure _)
      refine .getOwn_bind (fun _ _ => rfl) fun t => ?_
      refine (Ignores.wrapNewMany _).bind fun fresh => ?_
      refine (Ignores.modifyOwn fun _ _ => rfl).bind fun _ => ?_
      exact (Ignores.forM (Ignores.announceCreated _) fresh).bind fun _ => .pure _
  | createRayTracingPipelines | buildStructures => cases hdefers
  | joinOperation | queryOperation => cases hawaits
  | _ => exact ignores_relay _ out

/-- **A call that is about no operation ignores what waits.** -/
theorem ignores_perform {r : DeviceRequest} (hr : r.operation? = none) (out : Outputs) :
    Ignores (perform r out : DeviceM σ (Result × Outputs)) := by
  have hnone : r.defers? = none ∧ r.awaits? = none := by
    cases r with
    | destroy => exact ⟨rfl, rfl⟩
    | _ => exact Option.or_eq_none_iff.1 hr
  refine (ignores_prepare hr).bind fun _ => ?_
  refine (Ignores.intercept (ignores_serve hnone.1 hnone.2 out)).bind fun ⟨_, _⟩ => ?_
  exact (ignores_conclude r _ _).bind fun _ => .pure _

end Device

end HandleLayer
