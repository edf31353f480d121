import HandleLayer.Proofs.Resemblance

/-!
# Calls without wrapping

The switch for wrapping is looked at in many places: before a call is served, inside every
operation on surrogates, and after the call.  When it is off, all of them together leave
nothing of the layer but talk with the validation objects: a call to a device is handed down as
it is, the answer is passed back as it is, and nothing is kept but the list of secondary
command buffers.

## Main definitions

* `Tracked.Bare`, `Layer.Plain` — nothing is kept, and there are no surrogates.
* `World.Alike`, `Layer.Alike` — states that differ in talk only.
* `DeviceRequest.passed` — what comes of an answer that is passed back as it is.
* `Device.Talks`, `Device.HandsDown`, `Device.HandsOn` — programs that only talk, that hand a
  request down, and that pass its answer back.

## Main results

* `Device.handsOn_serve` — the part of a call that can be skipped.
* `Device.exists_run_perform_plain` — **without wrapping, a call is handed on as it is.**
* `Device.plain_perform` — what the next layer sees of that.
-/

namespace HandleLayer

variable {σ : Type}

/-! ### Nothing is kept -/

/-- Nothing is kept of a device but which command buffers are secondary. -/
def Tracked.Bare (t : Tracked) : Prop := t = { Tracked.empty with secondaries := t.secondaries }

namespace Tracked.Bare

variable {t : Tracked}

theorem of_secondaries (ht : t.Bare) (secondaries : Table Handle Handle) :
    Bare { t with secondaries } := by
  unfold Bare at ht ⊢
  rw [ht]

theorem get?_deferred (ht : t.Bare) (operation : Handle) : t.deferred.get? operation = none := by
  rw [ht]
  exact DeferredOperations.get?_empty operation

/-- There is nothing to forget of a pool. -/
theorem forgetPool (ht : t.Bare) (pool : Handle) : t.forgetPool pool = t := by
  have hnone : t.poolSets.erase pool = t.poolSets := by
    rw [Table.erase_eq_self_iff, ht]
    exact Table.get?_empty pool
  unfold Tracked.forgetPool
  rw [hnone]

theorem clearSets (ht : t.Bare) (pool : Handle) : t.clearSets pool = t := by
  have hnone : t.poolSets.modify pool (fun _ => ∅) = t.poolSets := by
    ext1 pool'
    rw [ht, Table.get?_modify]
    simp [Tracked.empty]
  unfold Tracked.clearSets
  rw [hnone]

theorem forgetSwapchain (ht : t.Bare) (swapchain : Handle) : t.forgetSwapchain swapchain = t := by
  have hnone : t.swapchainImages.erase swapchain = t.swapchainImages := by
    rw [Table.erase_eq_self_iff, ht]
    exact Table.get?_empty swapchain
  unfold Tracked.forgetSwapchain
  rw [hnone]

theorem not_loses (ht : t.Bare) {kind : Destroyable} (hkind : kind ≠ .commandPool) (h : Handle) :
    ¬ t.Loses (.destroy kind h) := by
  rw [ht]
  cases kind with
  | commandPool => exact absurd rfl hkind
  | renderPass | updateTemplate =>
    simp [Loses, Table.contains_eq_isSome_get?, Tracked.empty, Shadows.empty]
  | deferredOperation =>
    simp [Loses, DeferredOperations.isPending, Table.contains_eq_isSome_get?, Tracked.empty,
      DeferredOperations.empty]
  | _ => exact not_false

/-- Only secondary command buffers can go before the validation objects are asked. -/
theorem prepared (ht : t.Bare) (r : DeviceRequest) :
    t.prepared r = { t with secondaries := (t.prepared r).secondaries } := by
  cases r with
  | destroy kind h =>
    by_cases hkind : kind = .commandPool
    · subst hkind
      rfl
    · rw [(t.prepared_eq_self_iff _).2 (ht.not_loses hkind h)]
  | _ => rfl

theorem lost (ht : t.Bare) (r : DeviceRequest) : t.lost r = [] := by
  cases r with
  | destroy kind h =>
    by_cases hkind : kind = .commandPool
    · subst hkind
      rfl
    · exact lost_eq_nil (ht.not_loses hkind h)
  | _ => rfl

end Tracked.Bare

/-! ### States that differ in talk only -/

/-- From one state to the next nothing has happened but talk. -/
structure World.Alike (w w' : World σ) : Prop where
  wrapper : w'.wrapper = w.wrapper
  memory : w'.memory = w.memory
  behaviour : w'.behaviour = w.behaviour
  below : w'.below = w.below
  calls : w'.calls = w.calls

namespace World.Alike

variable {w w' w'' : World σ}

theorem refl (w : World σ) : w.Alike w := ⟨rfl, rfl, rfl, rfl, rfl⟩

theorem trans (h : w.Alike w') (h' : w'.Alike w'') : w.Alike w'' :=
  ⟨h'.wrapper.trans h.wrapper, h'.memory.trans h.memory, h'.behaviour.trans h.behaviour,
    h'.below.trans h.below, h'.calls.trans h.calls⟩

/-- Other events than calls are talk. -/
theorem see {es : List Event} (hes : es.filterMap Event.call? = []) (w : World σ) :
    w.Alike (w.see es) := by
  refine ⟨rfl, rfl, rfl, rfl, ?_⟩
  rw [Layer.calls_see, hes, List.append_nil]

variable [NextLayer σ] {δ : Type} {s t : Layer δ σ}

/-- The next layer cannot tell such states apart, of one and the same object. -/
theorem ask (h : s.world.Alike t.world) (hhandle : t.object.handle = s.object.handle)
    (htable : t.object.table = s.object.table) (request : Request) (room : Option Nat) :
    t.reply request room = s.reply request room ∧
      (s.ask request room).world.Alike (t.ask request room).world := by
  unfold Layer.reply
  refine ⟨by rw [htable, hhandle, h.below], ⟨?wrapper, ?memory, ?behaviour, ?below, ?calls⟩⟩
  case wrapper =>
    rw [Layer.wrapper_ask, Layer.wrapper_ask, h.wrapper]
  case memory =>
    rw [Layer.memory_ask, Layer.memory_ask, h.memory]
  case behaviour =>
    unfold Layer.ask
    rw [htable]
    split
    · exact h.behaviour
    · exact h.behaviour
  case below =>
    unfold Layer.ask
    rw [htable, hhandle, h.below]
    split
    · rfl
    · exact h.below
  case calls =>
    rw [Layer.calls_ask, Layer.calls_ask, htable, hhandle, h.calls]

end World.Alike

namespace Layer

/-- The state with other storage of the application. -/
def withMemory {δ : Type} (memory : Table BatchId Batch) (s : Layer δ σ) : Layer δ σ :=
  { s with world := { s.world with memory } }

theorem resembles_withMemory (memory : Table BatchId Batch) (s : Layer Tracked σ) :
    s.Resembles (s.withMemory memory) := ⟨rfl, rfl, rfl, rfl⟩

theorem withMemory_eq_self {δ : Type} {memory : Table BatchId Batch} {s : Layer δ σ}
    (h : s.world.memory = memory) : s.withMemory memory = s := by
  subst h
  rfl

/-- A state in which nothing is kept and there are no surrogates. -/
structure Plain (s : Layer Tracked σ) : Prop where
  wrapper : s.world.wrapper = .new false
  own : s.object.own.Bare

theorem Plain.disabled {s : Layer Tracked σ} (hs : s.Plain) : s.world.wrapper.enabled = false := by
  rw [hs.wrapper]
  rfl

/-- From one state to the next nothing has happened but talk, and other command buffers may be
secondary. -/
structure Alike (s t : Layer Tracked σ) : Prop where
  world : s.world.Alike t.world
  object : t.object = s.object.withOwn { s.object.own with secondaries := t.object.own.secondaries }

namespace Alike

variable {s t u : Layer Tracked σ}

theorem refl (s : Layer Tracked σ) : s.Alike s := ⟨.refl _, rfl⟩

theorem trans (h : s.Alike t) (h' : t.Alike u) : s.Alike u := by
  refine ⟨h.world.trans h'.world, ?_⟩
  rw [h'.object, h.object]
  rfl

theorem see {es : List Event} (hes : es.filterMap Event.call? = []) (s : Layer Tracked σ) :
    s.Alike (s.see es) := ⟨.see hes s.world, rfl⟩

theorem withSecondaries (secondaries : Table Handle Handle) (s : Layer Tracked σ) :
    s.Alike (s.withOwn { s.object.own with secondaries }) := ⟨.refl _, rfl⟩

theorem withMemory (h : s.Alike t) (memory : Table BatchId Batch) :
    (s.withMemory memory).Alike (t.withMemory memory) :=
  ⟨⟨h.world.wrapper, rfl, h.world.behaviour, h.world.below, h.world.calls⟩, h.object⟩

theorem plain (h : s.Alike t) (hs : s.Plain) : t.Plain := by
  refine ⟨h.world.wrapper.trans hs.wrapper, ?_⟩
  rw [h.object]
  exact hs.own.of_secondaries _

theorem resembles (h : s.Alike t) : s.Resembles t := by
  refine ⟨?_, h.world.behaviour, h.world.below, congrArg (List.map Call.flat) h.world.calls⟩
  rw [h.object]
  rfl

variable [NextLayer σ]

/-- The next layer cannot tell such states apart. -/
theorem ask (h : s.Alike t) (request : Request) (room : Option Nat) :
    t.reply request room = s.reply request room ∧
      (s.ask request room).Alike (t.ask request room) := by
  obtain ⟨hreply, hworld⟩ :=
    h.world.ask (by rw [h.object]; rfl) (by rw [h.object]; rfl) request room
  refine ⟨hreply, hworld, ?_⟩
  rw [object_ask, object_ask]
  exact h.object

end Alike

end Layer

/-! ### Programs that only talk -/

namespace Device

/-- A program that comes to a value and only talks, when there are no surrogates and nothing
is kept. -/
def Talks {α : Type} (p : DeviceM σ α) (a : α) : Prop :=
  ∀ s : Layer Tracked σ, s.Plain → ∃ t, p.run s = (a, t) ∧ s.Alike t

namespace Talks

variable {α β : Type} {p : DeviceM σ α} {f : α → DeviceM σ β} {a : α} {b : β}

theorem pure (a : α) : Talks (Pure.pure a : DeviceM σ α) a := fun s _ => ⟨s, rfl, .refl s⟩

theorem bind (hp : Talks p a) (hf : Talks (f a) b) : Talks (p >>= f) b := by
  intro s hs
  obtain ⟨t, hrun, hst⟩ := hp s hs
  obtain ⟨u, hrun', htu⟩ := hf t (hst.plain hs)
  exact ⟨u, (run_bind_of hrun f).trans hrun', hst.trans htu⟩

/-- A program may go by what is kept. -/
theorem getOwn_bind {f : Tracked → DeviceM σ β} (hf : ∀ t, t.Bare → Talks (f t) b) :
    Talks (getOwn >>= f) b := fun s hs => hf s.object.own hs.own s hs

theorem wrapping_bind {f : Bool → DeviceM σ β} (hf : Talks (f false) b) :
    Talks (wrapping >>= f) b := by
  intro s hs
  have hwrapping : (wrapping : DeviceM σ Bool).run s = (false, s) := by
    rw [run_wrapping, hs.disabled]
  rw [run_bind_of hwrapping]
  exact hf s hs

theorem forM {f : β → DeviceM σ Unit} (hf : ∀ b, Talks (f b) ()) (bs : List β) :
    Talks (bs.forM f) () := by
  induction bs with
  | nil => exact pure ()
  | cons b bs ih => exact (hf b).bind ih

/-- A change that there is nothing for but the secondary command buffers. -/
theorem modifyOwn {f : Tracked → Tracked}
    (hf : ∀ t, t.Bare → f t = { t with secondaries := (f t).secondaries }) :
    Talks (HandleLayer.modifyOwn f : DeviceM σ Unit) () := by
  intro s hs
  refine ⟨s.withOwn (f s.object.own), rfl, ?_⟩
  rw [hf _ hs.own]
  exact .withSecondaries _ s

theorem wrapNew (real : Handle) : Talks (HandleLayer.wrapNew real : DeviceM σ Handle) real := by
  intro s hs
  refine ⟨s, ?_, .refl s⟩
  rw [run_wrapNew, Wrapper.wrapNew_of_disabled hs.disabled]

theorem eraseHandle (h : Handle) : Talks (HandleLayer.eraseHandle h : DeviceM σ Unit) () := by
  intro s hs
  refine ⟨s, ?_, .refl s⟩
  rw [run_eraseHandle, Wrapper.erase_of_disabled hs.disabled]

theorem announceCreated (type : ObjectType) (h : Handle) :
    Talks (HandleLayer.announceCreated type h : DeviceM σ Unit) () :=
  fun s _ => ⟨_, run_announceCreated type h s, .see (filterMap_call?_announcements _ _) s⟩

theorem announceDestroyed (type : ObjectType) (h : Handle) :
    Talks (HandleLayer.announceDestroyed type h : DeviceM σ Unit) () :=
  fun s _ => ⟨_, run_announceDestroyed type h s, .see (filterMap_call?_announcements _ _) s⟩

theorem dropSets (sets : List Handle) : Talks (Device.dropSets sets : DeviceM σ Unit) () :=
  forM (fun set => (eraseHandle set).bind (announceDestroyed _ set)) sets

/-- Nothing waits for an operation. -/
theorem completeOperation (operation : Handle) (result : Result) :
    Talks (Device.completeOperation operation result : DeviceM σ Unit) () := by
  unfold Device.completeOperation
  split
  · refine getOwn_bind fun t ht => ?_
    rw [ht.get?_deferred]
    exact pure ()
  · exact pure ()

end Talks

end Device

/-! ### Answers passed back -/

namespace DeviceRequest

/-- What comes of an answer that is passed back as it is.  Some entry points have no result,
and some no output storage. -/
def passed (r : DeviceRequest) (reply : Reply) (out : Outputs) :
    Result × Outputs :=
  match r with
  | destroy .. | freeCommandBuffers .. => (.success, out)
  | joinOperation _ | queryOperation _ | buildStructures .. => (reply.result, out)
  | _ => (reply.result, reply.write r.chains out)

/-- Most requests have no outputs but those that an answer is written into. -/
theorem passed_of_isCovered {r : DeviceRequest} (hr : r.isCovered = true) (reply : Reply)
    (out : Outputs) : r.passed reply out = r.outcome reply out := by
  cases r with
  | createGraphicsPipelines | createComputePipelines | createRayTracingPipelines
  | joinOperation | queryOperation | buildStructures | exportMetalObjects =>
    exact absurd hr Bool.false_ne_true
  | _ => rfl

theorem roomBelow_of_isCovered {r : DeviceRequest} (hr : r.isCovered = true) (out : Outputs) :
    r.roomBelow false out = r.room out := by
  cases r with
  | joinOperation | queryOperation | buildStructures => exact absurd hr Bool.false_ne_true
  | _ => rfl

/-- The storage of the application after an answer.  Outputs of earlier calls are written
where the application asked for them, when it asks for the result of an operation. -/
def received (r : DeviceRequest) (reply : Reply) (memory : Table BatchId Batch) :
    Table BatchId Batch :=
  match r with
  | joinOperation _ | queryOperation _ =>
    reply.late.foldl (fun m w => m.modify w.batch (Batch.receive w)) memory
  | _ => memory

end DeviceRequest

namespace Device

variable [NextLayer σ]

/-- A program that hands a request down as it is, when there is no answer to it. -/
def HandsDown (r : DeviceRequest) (p : DeviceM σ Unit) : Prop :=
  ∀ s : Layer Tracked σ, s.Plain → ∃ t, p.run s = ((), t) ∧ (s.ask (.ofDevice r) none).Alike t

/-- A program that hands a request down as it is and passes the answer back as it is. -/
def HandsOn (r : DeviceRequest) (out : Outputs) (p : DeviceM σ (Result × Outputs)) : Prop :=
  ∀ s : Layer Tracked σ, s.Plain → ∃ t,
    p.run s = (r.passed (s.reply (.ofDevice r) (r.roomBelow false out)) out, t) ∧
      ((s.ask (.ofDevice r) (r.roomBelow false out)).withMemory (r.received
        (s.reply (.ofDevice r) (r.roomBelow false out)) s.world.memory)).Alike t

variable {r : DeviceRequest} {out : Outputs} {s : Layer Tracked σ}

theorem plain_ask (hs : s.Plain) (request : Request) (room : Option Nat) :
    (s.ask request room).Plain := by
  refine ⟨?_, ?_⟩
  · rw [Layer.wrapper_ask, hs.wrapper]
  · rw [Layer.object_ask]
    exact hs.own

namespace HandsDown

theorem of_send {f : DeviceRequest × Reply → DeviceM σ Unit} (hf : ∀ o, Talks (f o) ()) :
    HandsDown r (send r none >>= f) := by
  intro s hs
  rw [run_bind_of (run_send_of_disabled hs.disabled r none)]
  exact hf _ _ (plain_ask hs _ _)

/-- Talk may come before. -/
theorem after {p : DeviceM σ Unit} {f : Unit → DeviceM σ Unit} (hp : Talks p ())
    (hf : HandsDown r (f ())) : HandsDown r (p >>= f) := by
  intro s hs
  obtain ⟨t, hrun, hst⟩ := hp s hs
  obtain ⟨u, hrun', htu⟩ := hf t (hst.plain hs)
  exact ⟨u, (run_bind_of hrun f).trans hrun', (hst.ask _ _).2.trans htu⟩

theorem getOwn_bind {f : Tracked → DeviceM σ Unit} (hf : ∀ t, t.Bare → HandsDown r (f t)) :
    HandsDown r (getOwn >>= f) := fun s hs => hf s.object.own hs.own s hs

/-- An object of any kind is destroyed; no children are known of it. -/
theorem destroy (kind : Destroyable) (h : Handle) :
    HandsDown (.destroy kind h) (Device.destroy kind h : DeviceM σ Unit) := by
  have hobject : ∀ kind, HandsDown (.destroy kind h) (destroyObject kind h : DeviceM σ Unit) :=
    fun kind => of_send fun _ => (Talks.eraseHandle h).bind (.announceDestroyed _ h)
  cases kind with
  | descriptorPool =>
    -- the sets that are dropped, if there were any, would only be talked about
    refine getOwn_bind fun t _ => after (.modifyOwn fun t ht => ?_)
      (after (.dropSets _) (hobject .descriptorPool))
    rw [ht.forgetPool]
  | swapchain =>
    refine getOwn_bind fun t _ => after (.modifyOwn fun t ht => ?_) (of_send fun _ => ?_)
    · rw [ht.forgetSwapchain]
    · exact (Talks.eraseHandle h).bind ((Talks.forM .eraseHandle _).bind
        ((Talks.forM (.announceDestroyed .image) _).bind (.announceDestroyed .swapchain h)))
  | _ => exact hobject _

/-- The entry point has no result and no outputs. -/
theorem silently {p : DeviceM σ Unit} (hp : HandsDown r p) (hroom : r.roomBelow false out = none)
    (hpassed : ∀ reply, r.passed reply out = (.success, out))
    (hreceived : ∀ reply memory, r.received reply memory = memory) :
    HandsOn r out (Device.silently p out : DeviceM σ (Result × Outputs)) := by
  intro s hs
  obtain ⟨t, hrun, halike⟩ := hp s hs
  unfold Device.silently
  rw [run_bind_of hrun, hroom, hpassed, hreceived]
  refine ⟨t, rfl, ?_⟩
  rw [Layer.withMemory_eq_self (Layer.memory_ask s _ _)]
  exact halike

end HandsDown

namespace HandsOn

/-- A request handed down with its output storage, and talk after the answer. -/
theorem of_relay {f : Result × Outputs → DeviceM σ (Result × Outputs)}
    (hroom : r.roomBelow false out = out.slots.map List.length)
    (hpassed : ∀ reply, r.passed reply out = (reply.result, reply.write r.chains out))
    (hreceived : ∀ reply memory, r.received reply memory = memory) (hf : ∀ o, Talks (f o) o) :
    HandsOn r out (relay r out >>= f) := by
  intro s hs
  rw [run_bind_of (run_relay_of_disabled hs.disabled r out), hroom, hpassed, hreceived,
    Layer.withMemory_eq_self (Layer.memory_ask s _ _)]
  exact hf _ _ (plain_ask hs _ _)

theorem relay (hroom : r.roomBelow false out = out.slots.map List.length)
    (hpassed : ∀ reply, r.passed reply out = (reply.result, reply.write r.chains out))
    (hreceived : ∀ reply memory, r.received reply memory = memory) :
    HandsOn r out (Device.relay r out : DeviceM σ (Result × Outputs)) :=
  of_relay hroom hpassed hreceived fun o => .pure o

theorem createObject (info : CreateInfo) (out : Outputs) :
    HandsOn (.create info) out
      (Device.createObject info out : DeviceM σ (Result × Outputs)) := by
  refine of_relay rfl (fun _ => rfl) (fun _ _ => rfl) fun ⟨result, out⟩ => ?_
  dsimp only
  split
  · next real rest hslots =>
    split
    · -- the handle of the next layer is written where it stands already
      have hout : { out with slots := some (real :: rest) } = out := by rw [← hslots]
      have hsame : Talks (Pure.pure (result, { out with slots := some (real :: rest) }) :
          DeviceM σ _) (result, out) := by
        rw [hout]
        exact .pure _
      exact (Talks.wrapNew real).bind ((Talks.announceCreated _ real).bind hsame)
    · exact .pure _
  · exact .pure _

omit [NextLayer σ] in
/-- Outputs of earlier calls are written where the application asked for them. -/
theorem run_forM_receive (late : List LateWrite) {s : Layer Tracked σ}
    (hs : s.world.wrapper.enabled = false) :
    (late.forM receive).run s = ((), s.withMemory
      (late.foldl (fun m w => m.modify w.batch (Batch.receive w)) s.world.memory)) := by
  induction late generalizing s with
  | nil => rfl
  | cons w late ih =>
    have hone : (receive w).run s
        = ((), s.withMemory (s.world.memory.modify w.batch (Batch.receive w))) := by
      unfold receive
      rw [run_bind_of (run_wrapping s), hs]
      rfl
    rw [run_forM_cons, hone]
    exact ih (s := s.withMemory _) hs

/-- The result of an operation is asked for, with nothing that waits for it. -/
theorem awaitOperation {operation : Handle} (hroom : r.roomBelow false out = none)
    (hpassed : ∀ reply, r.passed reply out = (reply.result, out))
    (hreceived : ∀ (reply : Reply) memory, r.received reply memory
      = reply.late.foldl (fun m w => m.modify w.batch (Batch.receive w)) memory) :
    HandsOn r out (Device.awaitOperation r operation out : DeviceM σ (Result × Outputs)) := by
  intro s hs
  have hasked := plain_ask hs (.ofDevice r) none
  unfold Device.awaitOperation
  rw [run_bind_of (run_send_of_disabled hs.disabled r none)]
  dsimp only
  rw [run_bind_of (run_forM_receive _ hasked.disabled), hroom, hpassed, hreceived,
    Layer.memory_ask]
  have htalks : Talks (do
      completeOperation operation (s.reply (.ofDevice r) none).result
      Pure.pure ((s.reply (.ofDevice r) none).result, out) : DeviceM σ (Result × Outputs)) _ :=
    (Talks.completeOperation operation _).bind (.pure _)
  exact htalks _ ⟨hasked.wrapper, hasked.own⟩

theorem buildStructures (operation : Handle) (infos : AppArray BuildInfo)
    (ranges : Option (List (List BuildRange))) (out : Outputs) :
    HandsOn (.buildStructures operation infos ranges) out
      (Device.buildStructures operation infos ranges out : DeviceM σ (Result × Outputs)) := by
  intro s hs
  have hasked := plain_ask hs (.ofDevice (.buildStructures operation infos ranges)) none
  unfold Device.buildStructures
  rw [run_bind_of (run_send_of_disabled hs.disabled _ none)]
  dsimp only
  rw [run_bind_of (run_wrapping _), hasked.disabled, if_neg (by simp)]
  refine ⟨_, rfl, ?_⟩
  show ((s.ask _ none).withMemory s.world.memory).Alike _
  rw [Layer.withMemory_eq_self (Layer.memory_ask s _ _)]
  exact .refl _

end HandsOn

/-- **Without wrapping, the part of a call that can be skipped hands it on.** -/
theorem handsOn_serve (r : DeviceRequest) (out : Outputs) :
    HandsOn r out (serve r out : DeviceM σ (Result × Outputs)) := by
  cases r with
  | create info => exact .createObject info out
  | destroy kind h =>
    exact (HandsDown.destroy kind h).silently rfl (fun _ => rfl) fun _ _ => rfl
  | releaseConfiguration h =>
    refine .of_relay rfl (fun _ => rfl) (fun _ _ => rfl) fun ⟨result, out⟩ => ?_
    dsimp only
    split
    · exact (Talks.eraseHandle h).bind ((Talks.announceDestroyed _ h).bind (.pure _))
    · exact .pure _
  | resetDescriptorPool pool flags =>
    refine .of_relay rfl (fun _ => rfl) (fun _ _ => rfl) fun ⟨result, out⟩ => ?_
    dsimp only
    split
    · refine .getOwn_bind fun t _ => (Talks.modifyOwn fun t ht => ?_).bind
        ((Talks.dropSets _).bind (.pure _))
      rw [ht.clearSets]
    · exact .pure _
  | allocateSets pool layouts =>
    refine .of_relay rfl (fun _ => rfl) (fun _ _ => rfl) fun ⟨result, out⟩ => .wrapping_bind ?_
    rw [if_neg (fun h => Bool.false_ne_true h.1)]
    exact .pure _
  | freeSets pool sets =>
    refine .of_relay rfl (fun _ => rfl) (fun _ _ => rfl) fun ⟨result, out⟩ => .wrapping_bind ?_
    dsimp only
    rw [if_neg (fun h => Bool.false_ne_true h.1)]
    exact .pure _
  | createGraphicsPipelines | createComputePipelines =>
    refine .of_relay rfl (fun _ => rfl) (fun _ _ => rfl) fun ⟨result, out⟩ => .wrapping_bind ?_
    exact .pure _
  | createRayTracingPipelines batch operation cache infos =>
    -- whether handles are wrapped decides first, before anything is put off
    intro s hs
    have hrelay : HandsOn (.createRayTracingPipelines batch operation cache infos) out
        (relay (.createRayTracingPipelines batch operation cache infos) out :
          DeviceM σ (Result × Outputs)) := .relay rfl (fun _ => rfl) fun _ _ => rfl
    have hrun : (serve (.createRayTracingPipelines batch operation cache infos) out).run s
        = (relay (.createRayTracingPipelines batch operation cache infos) out).run s := by
      show (createRayTracingPipelines batch operation cache infos out).run s = _
      unfold createRayTracingPipelines
      rw [run_bind_of (run_wrapping s), hs.disabled, if_neg Bool.false_ne_true]
    rw [hrun]
    exact hrelay s hs
  | allocateCommandBuffers pool level count =>
    refine .of_relay rfl (fun _ => rfl) (fun _ _ => rfl) fun ⟨result, out⟩ => ?_
    dsimp only
    split
    · exact (Talks.modifyOwn fun _ _ => rfl).bind (.pure _)
    · exact .pure _
  | freeCommandBuffers pool buffers =>
    exact (HandsDown.of_send fun _ => .modifyOwn fun _ _ => rfl).silently rfl (fun _ => rfl)
      fun _ _ => rfl
  | getSwapchainImages swapchain =>
    refine .of_relay rfl (fun _ => rfl) (fun _ _ => rfl) fun ⟨result, out⟩ => ?_
    dsimp only
    split
    · exact .pure _
    · refine .wrapping_bind ?_
      rw [if_neg (fun h => Bool.false_ne_true h.1)]
      exact .pure _
  | joinOperation operation | queryOperation operation =>
    exact .awaitOperation rfl (fun _ => rfl) fun _ _ => rfl
  | buildStructures operation infos ranges => exact .buildStructures operation infos ranges out
  | _ => exact .relay rfl (fun _ => rfl) fun _ _ => rfl

omit [NextLayer σ] in
/-- Without wrapping, nothing is kept once a call is over. -/
theorem run_conclude_of_disabled (hs : s.world.wrapper.enabled = false) (r : DeviceRequest)
    (result : Result) (out : Outputs) :
    (conclude r result out).run s = ((), s.withMemory (stored r out s.world.memory)) := by
  cases r with
  | create info =>
    unfold conclude
    rw [run_bind_of (run_wrapping s), hs, if_neg (by simp)]
    rfl
  | _ => rfl

omit [NextLayer σ] in
/-- Before the validation objects are asked, nothing happens but talk. -/
theorem alike_prepared (hs : s.Plain) (r : DeviceRequest) {es : List Event}
    (hes : es.filterMap Event.call? = []) :
    s.Alike ((s.withOwn (s.object.own.prepared r)).see (s.object.own.lost r ++ es)) := by
  rw [hs.own.lost, hs.own.prepared, List.nil_append]
  exact (Layer.Alike.withSecondaries _ s).trans (.see hes _)

/-- **Without wrapping, a call is handed on as it is**, unless it is skipped. -/
theorem exists_run_perform_plain (hs : s.Plain)
    (hveto : s.object.registry.chain.vetoes s.world.behaviour r.command = false)
    (out : Outputs) :
    let reply := s.reply (.ofDevice r) (r.roomBelow false out)
    ∃ t, (perform r out).run s = (r.passed reply out, t) ∧
      ((s.ask (.ofDevice r) (r.roomBelow false out)).withMemory (stored r (r.passed reply out).2
        (r.received reply s.world.memory))).Alike t := by
  intro reply
  let objects := s.object.registry.chain.intercepting r.command
  -- until the request is served, and again after that, there is nothing but talk
  let begun := (s.withOwn (s.object.own.prepared r)).see (s.object.own.lost r ++
    toldBefore objects r.command)
  have hbegun : s.Alike begun := alike_prepared hs r (filterMap_toldBefore (fun _ _ => rfl) _ _)
  obtain ⟨t, hserve, halike⟩ := handsOn_serve r out begun (hbegun.plain hs)
  obtain ⟨hreply, hask⟩ := hbegun.ask (.ofDevice r) (r.roomBelow false out)
  rw [hreply] at hserve halike
  rw [hbegun.world.memory] at halike
  let after := t.see (toldEach objects (.after r.command (r.passed reply out).1))
  have hafter : ((s.ask (.ofDevice r) (r.roomBelow false out)).withMemory
      (r.received reply s.world.memory)).Alike after :=
    ((hask.withMemory _).trans halike).trans
      (.see (filterMap_toldEach (fun _ => rfl) _) t)
  have hperform : (perform r out).run s = (r.passed reply out,
      ((conclude r (r.passed reply out).1 (r.passed reply out).2).run after).2) := by
    have hrun : (perform r out).run s = _ := run_perform hveto
    dsimp only at hrun
    rw [hserve] at hrun
    exact hrun
  have hplain : after.Plain := hafter.plain ⟨(plain_ask hs _ _).wrapper, (plain_ask hs _ _).own⟩
  rw [run_conclude_of_disabled hplain.disabled, hafter.world.memory] at hperform
  exact ⟨_, hperform, hafter.withMemory _⟩

/-- A call that is skipped. -/
theorem exists_run_perform_plain_of_vetoes (hs : s.Plain)
    (hveto : s.object.registry.chain.vetoes s.world.behaviour r.command = true)
    (out : Outputs) :
    ∃ t, (perform r out).run s = ((.validationFailed, out), t) ∧
      (s.withMemory (stored r out s.world.memory)).Alike t :=
  have htalk : (toldEach (s.object.registry.chain.intercepting r.command)
      (.validate r.command)).filterMap Event.call? = [] :=
    filterMap_toldEach (fun _ => rfl) _
  ⟨_, run_perform_of_vetoes hveto, (alike_prepared hs r htalk).withMemory _⟩

/-- **What the next layer sees of a call without wrapping**, if the request is one of those that
are followed. -/
theorem plain_perform (hs : s.Plain) (hr : r.isCovered = true) (out : Outputs) :
    ∃ t, t.Plain ∧
      if s.object.registry.chain.vetoes s.world.behaviour r.command = true then
        (perform r out).run s = ((.validationFailed, out), t) ∧ s.Resembles t
      else
        (perform r out).run s = (r.outcome (s.reply (.ofDevice r) (r.room out)) out, t) ∧
          (s.ask (.ofDevice r) (r.room out)).Resembles t := by
  cases hveto : s.object.registry.chain.vetoes s.world.behaviour r.command with
  | true =>
    obtain ⟨t, hrun, halike⟩ := exists_run_perform_plain_of_vetoes hs hveto out
    refine ⟨t, halike.plain ⟨hs.wrapper, hs.own⟩, ?_⟩
    rw [if_pos rfl]
    exact ⟨hrun, (Layer.resembles_withMemory _ s).trans halike.resembles⟩
  | false =>
    obtain ⟨t, hrun, halike⟩ := exists_run_perform_plain hs hveto out
    have hasked := plain_ask hs (.ofDevice r) (r.roomBelow false out)
    refine ⟨t, halike.plain ⟨hasked.wrapper, hasked.own⟩, ?_⟩
    rw [if_neg Bool.false_ne_true, ← DeviceRequest.roomBelow_of_isCovered hr,
      ← DeviceRequest.passed_of_isCovered hr]
    exact ⟨hrun, (Layer.resembles_withMemory _ _).trans halike.resembles⟩

end Device

end HandleLayer
