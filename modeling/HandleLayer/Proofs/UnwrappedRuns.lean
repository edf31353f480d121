import HandleLayer.Proofs.CopyBack
import HandleLayer.Proofs.LifetimeRuns
import HandleLayer.Proofs.Unwrapped
import HandleLayer.Scripted

/-!
# Runs without wrapping

A system that does not wrap handles never comes to keep anything, whatever happens to it, and
so every call to its instance or to a device of it is handed on as it is.

## Main definitions

* `Layer.Reached` — a request has reached the next layer once and as it is.
* `InstanceRequest.passed` — what comes of an answer that is passed back as it is.
* `System.Plain` — the invariant: there are no surrogates, and nothing is kept of any device.

## Main results

* `DeviceRequest.chains_passed` — outputs in chains that are handed down as they are.
* `Instance.exists_run_perform_plain` — one call to an instance.
* `System.Plain.act`, `System.Plain.run` — the invariant holds whatever happens.
* `unwrapped_calls` — **without wrapping, the layer is not there.**
-/

namespace HandleLayer

variable {σ : Type}

/-! ### What the next layer gets and writes -/

namespace Layer

/-- A request has reached the next layer, once and as it is, if there is the entry point, and
nothing else has. -/
structure Reached {δ : Type} [NextLayer σ] (s : Layer δ σ) (request : Request) (room : Option Nat)
    (w : World σ) : Prop where
  calls : w.calls = s.world.calls ++
    if s.object.table.provides request.command then [⟨s.object.handle, request, room⟩] else []
  below : w.below = if s.object.table.provides request.command
    then (NextLayer.answer ⟨s.object.handle, request, room⟩ s.world.below).2 else s.world.below

theorem reached_ask {δ : Type} [NextLayer σ] (s : Layer δ σ) (request : Request)
    (room : Option Nat) : s.Reached request room (s.ask request room).world := by
  refine ⟨calls_ask s request room, ?_⟩
  unfold ask
  split <;> rfl

theorem Reached.calls_of_provides {δ : Type} [NextLayer σ] {s : Layer δ σ} {request : Request}
    {room : Option Nat} {w : World σ} (h : s.Reached request room w)
    (hprovides : s.object.table.provides request.command = true) :
    w.calls = s.world.calls ++ [⟨s.object.handle, request, room⟩] := by
  rw [h.calls, if_pos hprovides]

end Layer

/-- Where nothing was copied, the chain is the one that was handed down. -/
theorem Chain.settle_ofApp (blocks app : List Block) : (ofApp blocks).settle app = blocks := by
  show fillBlocks (app.take 0 ++ blocks) [] = blocks
  rw [fillBlocks_nil, List.take_zero, List.nil_append]

/-- What is written into chains that are handed down as they are stands in the application's
own chains. -/
theorem Reply.chains_write_ofApp (reply : Reply) (out : Outputs) :
    (reply.write (out.chains.map Chain.ofApp) out).chains
      = onto (fun ws blocks => Chain.fillBlocks blocks ws) reply.fills out.chains := by
  show onto Chain.settle (onto _ reply.fills (out.chains.map Chain.ofApp)) out.chains = _
  generalize reply.fills = fills
  induction out.chains generalizing fills with
  | nil => rw [onto_nil_right, onto_nil_right]
  | cons app chains ih =>
    cases fills with
    | nil => exact congrArg₂ List.cons (Chain.settle_ofApp app app) (ih [])
    | cons ws fills =>
      exact congrArg₂ List.cons (Chain.settle_ofApp (Chain.fillBlocks app ws) app) (ih fills)

/-- What is written into chains of the application stands there. -/
theorem DeviceRequest.chains_passed {r : DeviceRequest} {out : Outputs}
    (hchains : r.chains = out.chains.map Chain.ofApp) (reply : Reply) :
    (r.passed reply out).2.chains
      = onto (fun ws blocks => Chain.fillBlocks blocks ws) reply.fills out.chains := by
  have hnone : ∀ chains : List (List Block), [] = chains.map Chain.ofApp → chains
      = onto (fun ws blocks => Chain.fillBlocks blocks ws) reply.fills chains := by
    intro chains hnil
    rw [List.map_eq_nil_iff.1 hnil.symm, onto_nil_right]
  cases r with
  | destroy | freeCommandBuffers | joinOperation | queryOperation | buildStructures =>
    exact hnone _ hchains
  | _ =>
    show (reply.write _ out).chains = _
    rw [hchains, Reply.chains_write_ofApp]

/-! ### Calls to an instance -/

namespace Wrapper

variable {w : Wrapper} (hw : w.enabled = false) (reals : List Handle)

include hw

theorem wrapNewMany_of_disabled : w.wrapNewMany reals = (reals, w) := by
  induction reals with
  | nil => rfl
  | cons real reals ih =>
    rw [wrapNewMany, wrapNew_of_disabled hw]
    dsimp only
    rw [ih]

theorem wrapDisplayMany_of_disabled : w.wrapDisplayMany reals = (reals, w) := by
  induction reals with
  | nil => rfl
  | cons real reals ih =>
    have hone : w.wrapDisplay real = (real, w) := by simp [wrapDisplay, passes, hw]
    rw [wrapDisplayMany, hone]
    dsimp only
    rw [ih]

end Wrapper

namespace InstanceRequest

/-- The number of output slots that the next layer is given. -/
def roomBelow (r : InstanceRequest) (out : Outputs) : Option Nat :=
  match r with
  | destroySurface _ => none
  | _ => out.slots.map List.length

/-- What comes of an answer that is passed back as it is. -/
def passed (r : InstanceRequest) (reply : Reply) (out : Outputs) : Result × Outputs :=
  match r with
  | destroySurface _ => (.success, out)
  | _ => (reply.result, reply.write [] out)

theorem resolve_of_disabled {w : Wrapper} (hw : w.enabled = false) (r : InstanceRequest) :
    r.resolve w = r := by
  cases r with
  | destroySurface surface => rw [resolve, Wrapper.unwrap_of_disabled hw]
  | modes query physicalDevice display => rw [resolve, Wrapper.unwrap_of_disabled hw]
  | _ => rfl

end InstanceRequest

namespace Instance

variable [NextLayer σ] {s : Layer Settings σ}

/-- Without wrapping, a request is handed down as it is and its answer is passed back. -/
theorem run_relay_of_disabled (hs : s.world.wrapper.enabled = false) (r : InstanceRequest)
    (out : Outputs) :
    (relay r out).run s
      = (((s.reply (.ofInstance r) (out.slots.map List.length)).result,
            (s.reply (.ofInstance r) (out.slots.map List.length)).write [] out),
          s.ask (.ofInstance r) (out.slots.map List.length)) := by
  have hrun : (relay r out).run s
      = (do
          let reply ← forward (.ofInstance (r.resolve s.world.wrapper)) (out.slots.map List.length)
          return (reply.result, reply.write [] out) : InstanceM σ (Result × Outputs)).run s := rfl
  rw [hrun, InstanceRequest.resolve_of_disabled hs, run_bind_of (run_forward _ _ s)]
  rfl

/-- Handles that are reported are passed back as they are. -/
theorem run_reportHandles_of_disabled (hs : s.world.wrapper.enabled = false) (r : InstanceRequest)
    {wrap : List Handle → InstanceM σ (List Handle)}
    (hwrap : ∀ (reals : List Handle) (t : Layer Settings σ), t.world.wrapper.enabled = false →
      (wrap reals).run t = (reals, t)) (out : Outputs) :
    (reportHandles r wrap out).run s = (relay r out).run s := by
  have hrelay := run_relay_of_disabled hs r out
  have hasked : (s.ask (.ofInstance r) (out.slots.map List.length)).world.wrapper.enabled
      = false := by
    rw [Layer.wrapper_ask, hs]
  unfold reportHandles
  rw [run_bind_of hrelay, hrelay]
  generalize Reply.write _ [] out = written
  dsimp only
  split
  · rfl
  · next slots hslots =>
    split
    · rw [run_bind_of (hwrap _ _ hasked), overwrite_take, ← hslots]
      rfl
    · rfl

/-- **Without wrapping, the part of a call that can be skipped hands it on.** -/
theorem exists_run_serve_plain (hs : s.world.wrapper.enabled = false) {r : InstanceRequest}
    (hr : ∀ query physicalDevice count, r ≠ .tools query physicalDevice count) (out : Outputs) :
    ∃ t, (serve r out).run s = (r.passed (s.reply (.ofInstance r) (r.roomBelow out)) out, t) ∧
      t.object = s.object ∧ (s.ask (.ofInstance r) (r.roomBelow out)).world.Alike t.world := by
  have hrelay : ∀ r' : InstanceRequest, ∃ t,
      (relay r' out).run s = (((s.reply (.ofInstance r') (out.slots.map List.length)).result,
        (s.reply (.ofInstance r') (out.slots.map List.length)).write [] out), t) ∧
      t.object = s.object ∧
        (s.ask (.ofInstance r') (out.slots.map List.length)).world.Alike t.world :=
    fun r' => ⟨_, run_relay_of_disabled hs r' out, Layer.object_ask s _ _, .refl _⟩
  cases r with
  | destroySurface surface =>
    let asked := s.ask (.ofInstance (.destroySurface surface)) none
    refine ⟨((serve (.destroySurface surface) out).run s).2, rfl, ?_⟩
    rw [run_destroySurface, InstanceRequest.resolve_of_disabled hs]
    -- there is no surrogate to remove
    have hwrapper : asked.world.wrapper.erase surface = asked.world.wrapper :=
      Wrapper.erase_of_disabled (by rw [Layer.wrapper_ask, hs]) surface
    refine ⟨Layer.object_ask s _ _, ?_⟩
    show asked.world.Alike ((asked.world.withWrapper (asked.world.wrapper.erase surface)).see _)
    rw [hwrapper]
    exact .see (filterMap_call?_announcements _ _) asked.world
  | displays query physicalDevice =>
    have hrun : (serve (.displays query physicalDevice) out).run s
        = (relay (.displays query physicalDevice) out).run s :=
      run_reportHandles_of_disabled hs _ (fun reals t ht => by
        show (_, t.withWrapper (t.world.wrapper.wrapDisplayMany reals).2) = _
        rw [Wrapper.wrapDisplayMany_of_disabled ht]
        rfl) out
    rw [hrun]
    exact hrelay _
  | modes query physicalDevice display =>
    have hrun : (serve (.modes query physicalDevice display) out).run s
        = (relay (.modes query physicalDevice display) out).run s :=
      run_reportHandles_of_disabled hs _ (fun reals t ht => by
        rw [run_wrapNewMany, Wrapper.wrapNewMany_of_disabled ht]
        rfl) out
    rw [hrun]
    exact hrelay _
  | tools query physicalDevice count => exact absurd rfl (hr query physicalDevice count)
  | _ => exact hrelay _

/-- **Without wrapping, a call is handed on as it is**, unless it is skipped or lists tools. -/
theorem exists_run_perform_plain (hs : s.world.wrapper.enabled = false) {r : InstanceRequest}
    (hr : ∀ query physicalDevice count, r ≠ .tools query physicalDevice count)
    (hveto : s.object.registry.chain.vetoes s.world.behaviour r.command = false)
    (out : Outputs) :
    ∃ t, (perform r out).run s = (r.passed (s.reply (.ofInstance r) (r.roomBelow out)) out, t) ∧
      t.object = s.object ∧ (s.ask (.ofInstance r) (r.roomBelow out)).world.Alike t.world := by
  have hrun : (perform r out).run s = _ := run_intercept hveto
  dsimp only at hrun
  generalize s.object.registry.chain.intercepting r.command = objects at hrun
  generalize hbegun : s.see _ = begun at hrun
  have hdisabled : begun.world.wrapper.enabled = false := by
    rw [← hbegun]
    exact hs
  obtain ⟨t, hserve, hobject, halike⟩ := exists_run_serve_plain hdisabled hr out
  have hreply : begun.reply (.ofInstance r) (r.roomBelow out)
      = s.reply (.ofInstance r) (r.roomBelow out) := by
    rw [← hbegun]
    rfl
  rw [hserve, hreply] at hrun
  refine ⟨_, hrun, ?_, ?_⟩
  · show t.object = s.object
    rw [hobject, ← hbegun]
    rfl
  · have htalk : s.world.Alike begun.world := by
      rw [← hbegun]
      exact .see (filterMap_toldBefore (fun _ _ => rfl) _ _) s.world
    have hobject : begun.object = s.object := by
      rw [← hbegun]
      rfl
    have hask := (htalk.ask (by rw [hobject]) (by rw [hobject]) (.ofInstance r)
      (r.roomBelow out)).2
    exact (hask.trans halike).trans (.see (filterMap_toldEach (fun _ => rfl) _) t.world)

/-- Without wrapping, no call to an instance mints or removes anything. -/
theorem wrapper_perform_of_disabled (hs : s.world.wrapper.enabled = false) (r : InstanceRequest)
    (out : Outputs) : ((perform r out).run s).2.world.wrapper = s.world.wrapper := by
  cases hveto : s.object.registry.chain.vetoes s.world.behaviour r.command with
  | true =>
    rw [run_perform_of_vetoes hveto]
    rfl
  | false =>
    by_cases hr : ∃ query physicalDevice count, r = .tools query physicalDevice count
    · -- the list of tools has entries of the layer's own, and no handles
      obtain ⟨query, physicalDevice, count, rfl⟩ := hr
      have hrun : (perform (.tools query physicalDevice count) out).run s = _ := run_intercept hveto
      rw [hrun]
      exact (quiet_reportTools query physicalDevice out _).1
    · obtain ⟨t, hrun, -, halike⟩ := exists_run_perform_plain hs
        (fun query physicalDevice count heq => hr ⟨query, physicalDevice, count, heq⟩) hveto out
      rw [hrun, halike.wrapper, Layer.wrapper_ask]

end Instance

/-! ### Runs -/

namespace System

/-- There are no surrogates, and nothing is kept of any device but which command buffers are
secondary. -/
structure Plain (s : System σ) : Prop where
  wrapper : s.world.wrapper = .new false
  own : ∀ device ∈ s.devices, device.own.Bare

namespace Plain

variable {s : System σ}

theorem layer (hs : s.Plain) {device : Dispatch Tracked} (hdevice : device ∈ s.devices) :
    Layer.Plain ⟨device, s.world⟩ := ⟨hs.wrapper, hs.own device hdevice⟩

theorem modifyRegistry (hs : s.Plain) (device : Option Nat) (f : Behaviour → Registry → Registry) :
    (s.modifyRegistry device f).Plain := by
  cases device with
  | none => exact ⟨hs.wrapper, hs.own⟩
  | some k =>
    refine ⟨hs.wrapper, fun d' hd' => ?_⟩
    obtain ⟨d, hd, hown⟩ := exists_of_mem_modify
      (f := fun d => { d with registry := f s.world.behaviour d.registry }) (fun _ => rfl) hd'
    rw [hown]
    exact hs.own d hd

variable [NextLayer σ]

/-- A call to a device, skipped or not. -/
theorem callDevice (hs : s.Plain) (k : Nat) (r : DeviceRequest) (out : Outputs) :
    (s.act (.callDevice k r out)).Plain := by
  rw [act_callDevice]
  unfold onDevice
  cases hdevice : s.devices[k]? with
  | none => exact hs
  | some device =>
    have hplain := hs.layer (List.mem_of_getElem? hdevice)
    have hafter : ((Device.perform r out).run ⟨device, s.world⟩).2.Plain := by
      cases hveto : device.registry.chain.vetoes s.world.behaviour r.command with
      | true =>
        obtain ⟨t, hrun, halike⟩ := Device.exists_run_perform_plain_of_vetoes hplain hveto out
        rw [hrun]
        exact halike.plain ⟨hplain.wrapper, hplain.own⟩
      | false =>
        obtain ⟨t, hrun, halike⟩ := Device.exists_run_perform_plain hplain hveto out
        have hasked := Device.plain_ask hplain (.ofDevice r) (r.roomBelow false out)
        rw [hrun]
        exact halike.plain ⟨hasked.wrapper, hasked.own⟩
    refine ⟨hafter.wrapper, fun d hd => ?_⟩
    rcases List.mem_or_eq_of_mem_set hd with hd | rfl
    · exact hs.own d hd
    · exact hafter.own

/-- **Whatever happens, nothing comes to be kept.** -/
theorem act (hs : s.Plain) (a : Action σ) : (s.act a).Plain := by
  cases a with
  | callInstance r out =>
    have hdisabled : s.world.wrapper.enabled = false := by
      rw [hs.wrapper]
      rfl
    have hwrapper := Instance.wrapper_perform_of_disabled (s := ⟨s.host, s.world⟩) hdisabled r out
    exact ⟨hwrapper.trans hs.wrapper, hs.own⟩
  | callDevice k r out => exact hs.callDevice k r out
  | createDevice physicalDevice handle table objects =>
    obtain ⟨hown, hwrapper, -⟩ := Instance.run_startDevice physicalDevice handle table objects
      ⟨s.host, s.world⟩
    refine ⟨hwrapper.trans hs.wrapper, fun d hd => ?_⟩
    have hbare : (((Instance.startDevice physicalDevice handle table objects).run
        ⟨s.host, s.world⟩).1.own).Bare := by
      rw [hown]
      rfl
    rcases List.mem_append.1 hd with hd | hd
    · exact hs.own d hd
    · rw [List.mem_singleton.1 hd]
      exact hbare
  | release device kind => exact hs.modifyRegistry device _
  | releaseAll device => exact hs.modifyRegistry device _
  | instruct behaviour => exact ⟨hs.wrapper, hs.own⟩
  | moveBelow f => exact ⟨hs.wrapper, hs.own⟩

theorem run (hs : s.Plain) (actions : List (Action σ)) : (s.run actions).Plain := by
  induction actions generalizing s with
  | nil => exact hs
  | cons a actions ih => exact ih (hs.act a)

end Plain

theorem plain_start (instanceHandle : Handle) (requested : ApiVersion) {settings : Settings}
    (hwrapping : settings.handleWrapping = false) (table : EntryTable) (behaviour : Behaviour)
    (objects : List ValidationObject) (below : σ) :
    (start instanceHandle requested settings table behaviour objects below).Plain := by
  refine ⟨?_, fun _ hd => absurd hd List.not_mem_nil⟩
  show Wrapper.new settings.handleWrapping = _
  rw [hwrapping]

end System

/-- **Without wrapping, the layer is not there.**  Take a system that does not wrap handles and
anything that may happen to it.  There are no surrogates, and nothing is kept of any device but
which command buffers are secondary.  A call, unless it is skipped or lists tools, reaches the
next layer once and as it is, and the application gets what the next layer answers: the result,
the outputs, those in chains, and those of earlier calls that are written now. -/
theorem unwrapped_calls [NextLayer σ] (instanceHandle : Handle) (requested : ApiVersion)
    (settings : Settings) (hwrapping : settings.handleWrapping = false) (table : EntryTable)
    (behaviour : Behaviour) (objects : List ValidationObject) (below : σ)
    (actions : List (Action σ)) :
    let s := (System.start instanceHandle requested settings table behaviour objects below).run
      actions
    s.world.wrapper = .new false ∧
    (∀ device ∈ s.devices,
      device.own = { Tracked.empty with secondaries := device.own.secondaries }) ∧
    (∀ (r : InstanceRequest) (out : Outputs),
      (∀ query physicalDevice count, r ≠ .tools query physicalDevice count) →
      s.host.registry.chain.vetoes s.world.behaviour r.command = false →
      let room := r.roomBelow out
      let reply := Layer.reply ⟨s.host, s.world⟩ (.ofInstance r) room
      ∃ s', s.onInstance (Instance.perform r out) = (r.passed reply out, s') ∧
        Layer.Reached ⟨s.host, s.world⟩ (.ofInstance r) room s'.world ∧
        s'.world.memory = s.world.memory) ∧
    (∀ (k : Nat) (device : Dispatch Tracked) (r : DeviceRequest) (out : Outputs),
      s.devices[k]? = some device →
      device.registry.chain.vetoes s.world.behaviour r.command = false →
      let room := r.roomBelow false out
      let reply := Layer.reply ⟨device, s.world⟩ (.ofDevice r) room
      ∃ s', s.onDevice k (Device.perform r out) = some (r.passed reply out, s') ∧
        Layer.Reached ⟨device, s.world⟩ (.ofDevice r) room s'.world ∧
        s'.world.memory
          = Device.stored r (r.passed reply out).2 (r.received reply s.world.memory) ∧
        (r.chains = out.chains.map Chain.ofApp → (r.passed reply out).2.chains
          = onto (fun ws blocks => Chain.fillBlocks blocks ws) reply.fills out.chains)) := by
  intro s
  have hs : s.Plain := (System.plain_start instanceHandle requested hwrapping table behaviour
    objects below).run actions
  refine ⟨hs.wrapper, hs.own, ?_, ?_⟩
  · intro r out hr hveto room reply
    have hdisabled : s.world.wrapper.enabled = false := by
      rw [hs.wrapper]
      rfl
    obtain ⟨t, hrun, -, halike⟩ := Instance.exists_run_perform_plain (s := ⟨s.host, s.world⟩)
      hdisabled hr hveto out
    have hreached := Layer.reached_ask ⟨s.host, s.world⟩ (.ofInstance r) room
    refine ⟨{ s with host := t.object, world := t.world }, ?_,
      ⟨halike.calls.trans hreached.calls, halike.below.trans hreached.below⟩,
      halike.memory.trans (Layer.memory_ask _ _ _)⟩
    unfold System.onInstance
    rw [hrun]
  · intro k device r out hdevice hveto room reply
    obtain ⟨t, hrun, halike⟩ := Device.exists_run_perform_plain
      (hs.layer (List.mem_of_getElem? hdevice)) hveto out
    have hreached := Layer.reached_ask ⟨device, s.world⟩ (.ofDevice r) room
    refine ⟨{ s with devices := s.devices.set k t.object, world := t.world }, ?_,
      ⟨halike.world.calls.trans hreached.calls, halike.world.below.trans hreached.below⟩,
      halike.world.memory, fun hchains => r.chains_passed hchains reply⟩
    unfold System.onDevice
    rw [hdevice, Option.map_some, hrun]

/-- A pipeline for a render pass that nothing is known of keeps its colour blend state, and a
surface that nothing is known of is destroyed. -/
theorem passed_on_without_wrapping :
    let settings := Settings.default.switchOff .handleWrapping
    let actions : List (Action Scripted) :=
      [.createDevice 0xd000 0xe000 ⟨[.createDescriptorPool, .createGraphicsPipelines]⟩ [],
        .callDevice 0 (.create .descriptorPool) { slots := some [0] }]
    let s := (System.start 0xa000 0 settings ⟨[.destroySurfaceKhr]⟩ default []
      ({} : Scripted)).run actions
    let infos : AppArray GraphicsInfo :=
      .elems [{ (default : GraphicsInfo) with colorBlend := true, renderPass := 0x77 }]
    let r : DeviceRequest := .createGraphicsPipelines 7 infos
    (settings.handleWrapping = false ∧
        (s.host.handle, s.host.registry.chain.vetoes s.world.behaviour .destroySurfaceKhr,
          s.host.table.provides .destroySurfaceKhr) = (0xa000, false, true) ∧
        (s.devices[0]?).map (fun device =>
            (device.handle, device.registry.chain.vetoes s.world.behaviour r.command,
              device.table.provides r.command)) = some (0xe000, false, true)) ∧
      s.world.wrapper = .new false ∧
      (∃ s', s.onInstance (Instance.perform (.destroySurface 0x99) {}) = ((.success, {}), s') ∧
        s'.world.calls = s.world.calls ++ [⟨0xa000, .ofInstance (.destroySurface 0x99), none⟩]) ∧
      ∃ s', s.onDevice 0 (Device.perform r { slots := some [0] })
          = some ((.success, { slots := some [0x100010] }), s') ∧
        s'.world.calls = s.world.calls ++ [⟨0xe000, .ofDevice r, some 1⟩] := by
  intro settings actions s infos r
  have hwrapping : settings.handleWrapping = false := by decide +kernel
  have hhost : (s.host.handle, s.host.registry.chain.vetoes s.world.behaviour .destroySurfaceKhr,
      s.host.table.provides .destroySurfaceKhr) = (0xa000, false, true) := by decide +kernel
  have hdevice : (s.devices[0]?).map (fun device =>
      (device.handle, device.registry.chain.vetoes s.world.behaviour r.command,
        device.table.provides r.command)) = some (0xe000, false, true) := by decide +kernel
  have hanswer : (s.devices[0]?).map (fun device =>
      r.passed (Layer.reply ⟨device, s.world⟩ (.ofDevice r) (some 1)) { slots := some [0] })
        = some (.success, { slots := some [0x100010] }) := by decide +kernel
  -- the run is not looked into any more
  clear_value actions settings
  obtain ⟨hwrapper, -, hinstance, hcalls⟩ := unwrapped_calls 0xa000 0 settings hwrapping
    ⟨[.destroySurfaceKhr]⟩ default [] ({} : Scripted) actions
  refine ⟨⟨hwrapping, hhost, hdevice⟩, hwrapper, ?_, ?_⟩
  · obtain ⟨hhandle, hrest⟩ := Prod.mk.inj hhost
    obtain ⟨hveto, hprovides⟩ := Prod.mk.inj hrest
    obtain ⟨s', hrun, hreached, -⟩ := hinstance (.destroySurface 0x99) {} (fun _ _ _ => nofun) hveto
    rw [← hhandle]
    exact ⟨s', hrun, hreached.calls_of_provides hprovides⟩
  · obtain ⟨device, hdevice', hfacts⟩ := Option.map_eq_some_iff.1 hdevice
    obtain ⟨hhandle, hrest⟩ := Prod.mk.inj hfacts
    obtain ⟨hveto, hprovides⟩ := Prod.mk.inj hrest
    obtain ⟨s', hrun, hreached, -⟩ := hcalls 0 device r { slots := some [0] } hdevice' hveto
    rw [hdevice'] at hanswer
    rw [← Option.some.inj hanswer, ← hhandle]
    exact ⟨s', hrun, hreached.calls_of_provides hprovides⟩

end HandleLayer
