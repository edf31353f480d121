import HandleLayer.Proofs.Unobserved
import HandleLayer.Scripted

/-!
# Skipped calls

A call that a validation object asks to skip never reaches the next layer.  It leaves
nothing behind but the question to the objects, with four exceptions: what is remembered
of a render pass, of a template, of the secondary command buffers of a pool and of a
deferred operation goes before the objects are asked, and does not come back.

## Main definitions

* `Tracked.prepared`, `Tracked.lost` — what is left before the objects are asked, and what
  is seen to go.
* `Tracked.Loses` — whether a request makes a device forget anything at that point.

## Main results

* `Tracked.prepared_eq_self_iff` — **exactly the four exceptions lose anything.**
* `skipped_calls` — **what a skipped call leaves behind**, to an instance or a device.
-/

namespace HandleLayer

/-! ### What goes before the objects are asked -/

namespace Tracked

/-- What is left of what a device keeps when a request is brought before the validation
objects. -/
def prepared (t : Tracked) : DeviceRequest → Tracked
  | .destroy kind h =>
    match kind with
    | .renderPass => t.forgetUsage h
    | .updateTemplate => t.forgetTemplate h
    | .commandPool => t.forgetCommandPool h
    | .deferredOperation => t.modifyDeferred (·.erase h)
    | _ => t
  | _ => t

/-- What is seen to go before a request is brought before the validation objects. -/
def lost (t : Tracked) : DeviceRequest → List Event
  | .destroy .deferredOperation h =>
    match t.deferred.get? h with
    | none => []
    | some p => .notice (.operationDropped h) :: p.retained.map .dropped
  | _ => []

/-- Whether a request makes a device forget anything before the validation objects are
asked. -/
def Loses (t : Tracked) : DeviceRequest → Prop
  | .destroy kind h =>
    match kind with
    | .renderPass => t.renderPasses.contains h = true
    | .updateTemplate => t.templates.contains h = true
    | .commandPool => ∃ buffer, t.secondaries.get? buffer = some h
    | .deferredOperation => t.deferred.isPending h = true
    | _ => False
  | _ => False

theorem forgetUsage_eq_self_iff {t : Tracked} {h : Handle} :
    t.forgetUsage h = t ↔ ¬ t.renderPasses.contains h = true := by
  have htable : t.forgetUsage h = t ↔ t.renderPasses.erase h = t.renderPasses :=
    ⟨fun heq => congrArg (fun t : Tracked => t.renderPasses) heq,
      fun heq => by rw [forgetUsage, heq]⟩
  rw [htable, Table.erase_eq_self_iff, Table.contains_eq_isSome_get?]
  simp

theorem forgetTemplate_eq_self_iff {t : Tracked} {h : Handle} :
    t.forgetTemplate h = t ↔ ¬ t.templates.contains h = true := by
  have htable : t.forgetTemplate h = t ↔ t.templates.erase h = t.templates :=
    ⟨fun heq => congrArg (fun t : Tracked => t.templates) heq,
      fun heq => by rw [forgetTemplate, heq]⟩
  rw [htable, Table.erase_eq_self_iff, Table.contains_eq_isSome_get?]
  simp

theorem forgetCommandPool_eq_self_iff {t : Tracked} {pool : Handle} :
    t.forgetCommandPool pool = t ↔ ¬ ∃ buffer, t.secondaries.get? buffer = some pool := by
  have htable : t.forgetCommandPool pool = t ↔
      (t.secondaries.filter fun _ p => p ≠ pool) = t.secondaries :=
    ⟨fun heq => congrArg (fun t : Tracked => t.secondaries) heq,
      fun heq => by rw [forgetCommandPool, heq]⟩
  rw [htable, Table.filter_eq_self_iff]
  constructor
  · rintro hstays ⟨buffer, hbuffer⟩
    simpa using hstays buffer pool hbuffer
  · intro hnone buffer p hp
    refine decide_eq_true fun heq => hnone ⟨buffer, ?_⟩
    rw [hp, heq]

theorem eraseDeferred_eq_self_iff {t : Tracked} {operation : Handle} :
    t.modifyDeferred (·.erase operation) = t ↔ ¬ t.deferred.isPending operation = true := by
  have htable : t.modifyDeferred (·.erase operation) = t ↔
      t.deferred.pending.erase operation = t.deferred.pending :=
    ⟨fun heq => congrArg (fun t : Tracked => t.deferred.pending) heq,
      fun heq => by rw [modifyDeferred, DeferredOperations.erase, heq]⟩
  rw [htable, Table.erase_eq_self_iff, DeferredOperations.isPending,
    Table.contains_eq_isSome_get?]
  simp

/-- **Exactly the four exceptions lose anything**: a render pass, a template or a deferred
operation of which something is remembered, and a pool with secondary command buffers. -/
theorem prepared_eq_self_iff (t : Tracked) (r : DeviceRequest) :
    t.prepared r = t ↔ ¬ t.Loses r := by
  cases r with
  | destroy kind h =>
    cases kind with
    | renderPass => exact forgetUsage_eq_self_iff
    | updateTemplate => exact forgetTemplate_eq_self_iff
    | commandPool => exact forgetCommandPool_eq_self_iff
    | deferredOperation => exact eraseDeferred_eq_self_iff
    | _ => exact iff_of_true rfl not_false
  | _ => exact iff_of_true rfl not_false

/-- Where nothing is lost, nothing is seen to go. -/
theorem lost_eq_nil {t : Tracked} {r : DeviceRequest} (h : ¬ t.Loses r) : t.lost r = [] := by
  cases r with
  | destroy kind operation =>
    cases kind with
    | deferredOperation =>
      have hnone : t.deferred.get? operation = none := by
        have hpending : ¬ t.deferred.isPending operation = true := h
        rw [DeferredOperations.isPending, Table.contains_eq_isSome_get?] at hpending
        exact Option.not_isSome_iff_eq_none.1 hpending
      show (match t.deferred.get? operation with
        | none => []
        | some p => _) = []
      rw [hnone]
    | _ => rfl
  | _ => rfl

end Tracked

/-! ### Skipped calls -/

namespace Device

variable {σ : Type}

/-- Giving up a deferred operation takes its record away, in plain view if there is one. -/
theorem run_discardOperation (operation : Handle) (s : Layer Tracked σ) :
    (discardOperation operation).run s
      = ((), (s.withOwn (s.object.own.modifyDeferred (·.erase operation))).see
          (s.object.own.lost (.destroy .deferredOperation operation))) := by
  unfold discardOperation
  rw [run_bind, run_getOwn]
  cases hp : s.object.own.deferred.get? operation with
  | none =>
    have hnone : ¬ s.object.own.deferred.isPending operation = true := by
      rw [DeferredOperations.isPending, Table.contains_eq_isSome_get?]
      exact Option.not_isSome_iff_eq_none.2 hp
    have hlost : s.object.own.lost (.destroy .deferredOperation operation) = [] :=
      Tracked.lost_eq_nil hnone
    rw [hlost, Layer.see_nil, Tracked.eraseDeferred_eq_self_iff.2 hnone]
    rfl
  | some p =>
    have hlost : s.object.own.lost (.destroy .deferredOperation operation)
        = [.notice (.operationDropped operation)] ++ p.retained.map .dropped := by
      show (match s.object.own.deferred.get? operation with
        | none => []
        | some p => _) = _
      rw [hp]
      rfl
    rw [hlost, ← Layer.see_see]
    rfl

/-- What happens before the validation objects are asked. -/
theorem run_prepare (r : DeviceRequest) (s : Layer Tracked σ) :
    (prepare r).run s
      = ((), (s.withOwn (s.object.own.prepared r)).see (s.object.own.lost r)) := by
  have hquiet : s.object.own.lost r = [] →
      (prepare r).run s = ((), s.withOwn (s.object.own.prepared r)) →
      (prepare r).run s
        = ((), (s.withOwn (s.object.own.prepared r)).see (s.object.own.lost r)) := by
    intro hlost hrun
    rw [hlost, Layer.see_nil, hrun]
  cases r with
  | destroy kind h =>
    cases kind with
    | deferredOperation => exact run_discardOperation h s
    | _ => exact hquiet rfl rfl
  | _ => exact hquiet rfl rfl

/-- The storage that belongs to a place once a call has returned: it is noted as the
application's, with what is in it. -/
def stored (r : DeviceRequest) (out : Outputs) (memory : Table BatchId Batch) :
    Table BatchId Batch :=
  match r with
  | .createRayTracingPipelines batch .. => memory.insert batch ⟨out.slots, out.chains⟩
  | _ => memory

/-- Nothing is to be kept of a call without success. -/
theorem run_conclude_of_ne_success {result : Result} (hresult : result ≠ .success)
    (r : DeviceRequest) (out : Outputs) (s : Layer Tracked σ) :
    (conclude r result out).run s
      = ((), { s with world := { s.world with memory := stored r out s.world.memory } }) := by
  cases r with
  | create info =>
    have hfailed : ¬ (s.world.wrapper.enabled ∧ result = .success) := fun h => hresult h.2
    unfold conclude
    rw [run_bind, run_wrapping, if_neg hfailed]
    rfl
  | _ => rfl

variable [NextLayer σ]

/-- A call to a device that a validation object asks to skip. -/
theorem run_perform_of_vetoes {r : DeviceRequest} {out : Outputs} {s : Layer Tracked σ}
    (hveto : s.object.registry.chain.vetoes s.world.behaviour r.command = true) :
    (perform r out).run s
      = ((.validationFailed, out),
          { object := s.object.withOwn (s.object.own.prepared r)
            world := { s.world.see (s.object.own.lost r ++
                toldEach (s.object.registry.chain.intercepting r.command)
                  (.validate r.command)) with
              memory := stored r out s.world.memory } }) := by
  have hskipped : (intercept r.command out (serve r out)).run
      ((s.withOwn (s.object.own.prepared r)).see (s.object.own.lost r))
        = ((.validationFailed, out), _) :=
    run_intercept_of_vetoes hveto
  unfold perform
  rw [run_bind_of (run_prepare r s), run_bind_of hskipped]
  dsimp only
  rw [run_bind_of (run_conclude_of_ne_success (by decide) r out _), Layer.see_see]
  rfl

/-- A call to a device that no validation object asks to skip. -/
theorem run_perform {r : DeviceRequest} {out : Outputs} {s : Layer Tracked σ}
    (hveto : s.object.registry.chain.vetoes s.world.behaviour r.command = false) :
    (perform r out).run s
      = let objects := s.object.registry.chain.intercepting r.command
        let t := (serve r out).run ((s.withOwn (s.object.own.prepared r)).see
          (s.object.own.lost r ++ toldBefore objects r.command))
        (t.1, ((conclude r t.1.1 t.1.2).run
          (t.2.see (toldEach objects (.after r.command t.1.1)))).2) := by
  have hserved : (intercept r.command out (serve r out)).run
      ((s.withOwn (s.object.own.prepared r)).see (s.object.own.lost r)) = _ :=
    run_intercept hveto
  unfold perform
  rw [run_bind_of (run_prepare r s), run_bind_of hserved, Layer.see_see]
  rfl

/-- A call that loses nothing before the validation objects are asked, and is not skipped. -/
theorem run_perform_of_not_loses {r : DeviceRequest} {out : Outputs} {s : Layer Tracked σ}
    (hkeeps : ¬ s.object.own.Loses r)
    (hveto : s.object.registry.chain.vetoes s.world.behaviour r.command = false) :
    (perform r out).run s
      = let objects := s.object.registry.chain.intercepting r.command
        let t := (serve r out).run (s.see (toldBefore objects r.command))
        (t.1, ((conclude r t.1.1 t.1.2).run
          (t.2.see (toldEach objects (.after r.command t.1.1)))).2) := by
  have hprepared : s.withOwn (s.object.own.prepared r) = s := by
    rw [(s.object.own.prepared_eq_self_iff r).2 hkeeps, Layer.withOwn_own]
  rw [run_perform hveto, hprepared, Tracked.lost_eq_nil hkeeps]
  rfl

end Device

/-- A call to an instance that a validation object asks to skip. -/
theorem Instance.run_perform_of_vetoes {σ : Type} [NextLayer σ] {r : InstanceRequest}
    {out : Outputs} {s : Layer Settings σ}
    (hveto : s.object.registry.chain.vetoes s.world.behaviour r.command = true) :
    (Instance.perform r out).run s
      = ((.validationFailed, out),
          s.see (toldEach (s.object.registry.chain.intercepting r.command)
            (.validate r.command))) :=
  run_intercept_of_vetoes hveto

/-- **What a skipped call leaves behind.**  The next layer is not called, no object is told
of anything but asked, the result is that of a failed validation, and the surrogates stay
as they are.

A skipped call to an instance has no other effect at all.  So has a skipped call to a
device, exactly unless the request loses something: then nothing that the device keeps has
changed, and whatever happens later happens as if the call had not been made. -/
theorem skipped_calls {σ : Type} [NextLayer σ] (s : System σ) :
    (∀ (r : InstanceRequest) (out : Outputs),
      s.host.registry.chain.vetoes s.world.behaviour r.command = true →
      s.onInstance (Instance.perform r out)
          = ((.validationFailed, out),
              { s with
                world := s.world.see
                  (toldEach (s.host.registry.chain.intercepting r.command)
                    (.validate r.command)) }) ∧
        (s.act (.callInstance r out)).BehavesAs s) ∧
    ∀ (k : Nat) (device : Dispatch Tracked) (r : DeviceRequest) (out : Outputs),
      s.devices[k]? = some device →
      device.registry.chain.vetoes s.world.behaviour r.command = true →
      s.onDevice k (Device.perform r out)
          = some ((.validationFailed, out),
              { s with
                devices := s.devices.set k (device.withOwn (device.own.prepared r))
                world := { s.world.see (device.own.lost r ++
                    toldEach (device.registry.chain.intercepting r.command)
                      (.validate r.command)) with
                  memory := Device.stored r out s.world.memory } }) ∧
        (device.own.prepared r = device.own ↔ ¬ device.own.Loses r) ∧
        (¬ device.own.Loses r →
          device.own.lost r = [] ∧ (s.act (.callDevice k r out)).BehavesAs s) := by
  refine ⟨fun r out hveto => ?_, fun k device r out hdevice hveto => ?_⟩
  · have hcall : s.onInstance (Instance.perform r out)
        = ((.validationFailed, out),
            { s with
              world := s.world.see
                (toldEach (s.host.registry.chain.intercepting r.command)
                  (.validate r.command)) }) := by
      unfold System.onInstance
      rw [Instance.run_perform_of_vetoes hveto]
      rfl
    refine ⟨hcall, System.Agrees.behavesAs ?_⟩
    rw [System.act_callInstance, hcall]
    exact ⟨rfl, rfl, ⟨rfl, rfl, rfl⟩⟩
  · have hcall : s.onDevice k (Device.perform r out)
        = some ((.validationFailed, out),
            { s with
              devices := s.devices.set k (device.withOwn (device.own.prepared r))
              world := { s.world.see (device.own.lost r ++
                  toldEach (device.registry.chain.intercepting r.command)
                    (.validate r.command)) with
                memory := Device.stored r out s.world.memory } }) := by
      unfold System.onDevice
      rw [hdevice, Option.map_some, Device.run_perform_of_vetoes hveto]
    refine ⟨hcall, device.own.prepared_eq_self_iff r, fun hkeeps => ?_⟩
    refine ⟨Tracked.lost_eq_nil hkeeps, System.Agrees.behavesAs ?_⟩
    -- the device is put back in its place unchanged
    have hsame : s.devices.set k (device.withOwn (device.own.prepared r)) = s.devices := by
      obtain ⟨hk, heq⟩ := List.getElem?_eq_some_iff.1 hdevice
      rw [(device.own.prepared_eq_self_iff r).2 hkeeps]
      show s.devices.set k device = s.devices
      rw [← heq, List.set_getElem_self hk]
    rw [System.act_callDevice, hcall, hsame]
    exact ⟨rfl, rfl, ⟨rfl, rfl, rfl⟩⟩

/-- The destruction of a render pass is skipped, yet its attachments are forgotten. -/
theorem skipped_destruction_forgets :
    let device : Dispatch Tracked :=
      { handle := 0xc000
        apiVersion := 0
        table := ⟨[.destroyRenderPass]⟩
        registry := ⟨.new default [⟨0, .coreValidation⟩], []⟩
        own := Tracked.empty.setUsage 5 ⟨[0], []⟩ }
    let s : System Scripted :=
      { host := ⟨0xa000, 0, .empty, default, default⟩
        devices := [device]
        world :=
          { wrapper := .new true
            memory := .empty
            behaviour := ⟨fun _ _ => true, fun _ c => c == .destroyRenderPass⟩
            below := {}
            trace := #[] } }
    let r : DeviceRequest := .destroy .renderPass 5
    s.devices[0]? = some device ∧
      device.registry.chain.vetoes s.world.behaviour r.command = true ∧
      (s.onDevice 0 (Device.perform r {})).map (fun p => p.1.1) = some .validationFailed ∧
      device.own.prepared r ≠ device.own := by
  intro device s r
  have hdevice : s.devices[0]? = some device := rfl
  have hveto : device.registry.chain.vetoes s.world.behaviour r.command = true := by
    decide +kernel
  obtain ⟨hcall, hiff, -⟩ := (skipped_calls s).2 0 device r {} hdevice hveto
  refine ⟨hdevice, hveto, by rw [hcall]; rfl, fun heq => hiff.1 heq ?_⟩
  show device.own.renderPasses.contains 5 = true
  decide +kernel

end HandleLayer
