import HandleLayer.Proofs.Courses

/-!
# Requests handed down

Whatever the layer does with an answer, most calls to a device come down to one request, which
is handed down with the real handles in it.  What the next layer gets is then read off the
request, as it is resolved in the state before the call.

## Main definitions

* `Device.AsksOnce` — programs that hand down one request and no other one.
* `DeviceRequest.data?` — the template that a request goes by, with the data for it.
* `Scripted.device` — a device in front of a scripted layer.

## Main results

* `Device.asked_perform` — what goes down of a call that hands down one request.
* `Device.calls_perform_of_asksOnce` — **the one request of a call, as it goes down.**
* `DeviceRequest.data?_resolve` — data for a template that is remembered goes down rebuilt.
-/

namespace HandleLayer

variable {σ α β : Type} [NextLayer σ]

/-- The next layer is not called where no requests go down. -/
theorem Takes.calls_eq {δ : Type} {tracks : Prop} {p : CallM δ σ α} (hp : Takes tracks [] p)
    (s : Layer δ σ) : (p.run s).2.world.calls = s.world.calls := by
  obtain ⟨es, hevents, hshows⟩ := (hp s).events
  have hnone : es.filterMap Event.call? = [] := List.map_eq_nil_iff.1 hshows.commands
  show (p.run s).2.world.events.filterMap Event.call? = _
  rw [hevents, List.filterMap_append, hnone, List.append_nil]
  rfl

namespace Device

/-- Programs that hand down one request, with so much room for handles, and no other one,
while handles are wrapped. -/
def AsksOnce (r : DeviceRequest) (room : Option Nat) (p : DeviceM σ α) : Prop :=
  ∀ s : Layer Tracked σ, s.world.wrapper.enabled = true →
    (p.run s).2.world.calls = (sent r room s).world.calls

variable {r : DeviceRequest}

theorem asksOnce_send (r : DeviceRequest) (room : Option Nat) :
    AsksOnce r room (send r room : DeviceM σ (DeviceRequest × Reply)) := by
  intro s _
  rw [run_send]

/-- Nothing goes down after the first program. -/
theorem AsksOnce.followed {room : Option Nat} {p : DeviceM σ α} {f : α → DeviceM σ β}
    (hp : AsksOnce r room p) (hf : ∀ a, Takes True [] (f a)) : AsksOnce r room (p >>= f) :=
  fun s hs => ((hf _).calls_eq _).trans (hp s hs)

theorem asksOnce_relay (r : DeviceRequest) (out : Outputs) :
    AsksOnce r (out.slots.map List.length) (relay r out : DeviceM σ (Result × Outputs)) :=
  (asksOnce_send r _).followed fun _ => .pure _

theorem asksOnce_createPipelines (r : DeviceRequest) (count : Nat) (out : Outputs) :
    AsksOnce r (out.slots.map List.length)
      (createPipelines r count out : DeviceM σ (Result × Outputs)) := by
  refine (asksOnce_relay r out).followed fun ⟨result, out⟩ => Takes.wrapping.bind fun wraps => ?_
  exact .ite ((takes_publishOutputs _ _).bind fun _ => .pure _) (.pure _)

theorem asksOnce_createRayTracingPipelines (batch : BatchId) (operation cache : Handle)
    (infos : AppArray RayTracingInfo) (out : Outputs) :
    AsksOnce (.createRayTracingPipelines batch operation cache infos) (some infos.count)
      (createRayTracingPipelines batch operation cache infos out :
        DeviceM σ (Result × Outputs)) := by
  have hwrapped : AsksOnce (.createRayTracingPipelines batch operation cache infos)
      (some infos.count) (createRayTracingWrapped batch operation cache infos out :
        DeviceM σ (Result × Outputs)) := by
    refine (asksOnce_send _ _).followed fun ⟨sent, reply⟩ => ?_
    refine .ite ?_ ((takes_publishOutputs _ _).bind fun _ => .pure _)
    refine Takes.validationChain.bind fun chain => ?_
    exact (Takes.modifyOwn trivial _).bind fun _ => .pure _
  intro s hs
  unfold createRayTracingPipelines
  rw [run_bind_of (run_wrapping s), if_pos hs]
  exact hwrapped s hs

/-- The one request of a call goes down if the next layer has its entry point, the call is not
skipped and nothing is forgotten before it. -/
theorem asked_perform {room : Option Nat} {out : Outputs} {s : Layer Tracked σ}
    (hserve : ∀ t : Layer Tracked σ, t.world.wrapper = s.world.wrapper →
      ((serve r out).run t).2.world.calls = (sent r room t).world.calls)
    (hprepared : s.object.own.prepared r = s.object.own)
    (hveto : s.object.registry.chain.vetoes s.world.behaviour r.command = false) :
    ((perform r out).run s).2.world.calls = s.world.calls ++
      if s.object.table.provides r.command then
        [⟨s.object.handle,
          .ofDevice (r.resolve s.world.wrapper s.object.own.toShadows).value, room⟩]
      else [] := by
  rw [calls_perform hveto, hprepared]
  generalize hbegun : Layer.see _ _ = begun
  have hwrapper : begun.world.wrapper = s.world.wrapper := by
    rw [← hbegun]
    rfl
  rw [hserve begun hwrapper, calls_sent, ← hbegun]
  refine congrArg₂ (· ++ ·) (Layer.calls_seen ?_) rfl
  rw [List.filterMap_append, filterMap_call?_lost, filterMap_toldBefore fun _ _ => rfl]
  rfl

/-- The same while handles are wrapped. -/
theorem asked_perform_of_asksOnce {room : Option Nat} {out : Outputs} {s : Layer Tracked σ}
    (hs : s.world.wrapper.enabled = true)
    (hserve : AsksOnce r room (serve r out : DeviceM σ (Result × Outputs)))
    (hprepared : s.object.own.prepared r = s.object.own)
    (hveto : s.object.registry.chain.vetoes s.world.behaviour r.command = false) :
    ((perform r out).run s).2.world.calls = s.world.calls ++
      if s.object.table.provides r.command then
        [⟨s.object.handle,
          .ofDevice (r.resolve s.world.wrapper s.object.own.toShadows).value, room⟩]
      else [] :=
  asked_perform (fun t ht => hserve t (by rw [ht, hs])) hprepared hveto

/-- **The one request of a call, as it goes down.** -/
theorem calls_perform_of_asksOnce {room : Option Nat} {out : Outputs} {s : Layer Tracked σ}
    (hs : s.world.wrapper.enabled = true)
    (hserve : AsksOnce r room (serve r out : DeviceM σ (Result × Outputs)))
    (hprepared : s.object.own.prepared r = s.object.own)
    (hveto : s.object.registry.chain.vetoes s.world.behaviour r.command = false)
    (hprovides : s.object.table.provides r.command = true) :
    ((perform r out).run s).2.world.calls = s.world.calls ++ [⟨s.object.handle,
      .ofDevice (r.resolve s.world.wrapper s.object.own.toShadows).value, room⟩] := by
  rw [asked_perform_of_asksOnce hs hserve hprepared hveto, if_pos hprovides]

end Device

/-! ### Data for templates -/

/-- The template that a request goes by, and the data that the application passes for it. -/
def DeviceRequest.data? : DeviceRequest → Option (Handle × Option Blob)
  | updateSetWithTemplate _ template data => some (template, data)
  | pushSetWithTemplate _ template _ _ data => some (template, data)
  | pushSetWithTemplate2 _ template _ _ data _ => some (template, data)
  | _ => none

section Data

variable {r : DeviceRequest} {template : Handle} {data : Option Blob}

omit [NextLayer σ] in
/-- Data for a template that is remembered goes down rebuilt. -/
theorem DeviceRequest.data?_resolve (hr : r.data? = some (template, data)) {w : Wrapper}
    (hw : w.enabled = true) {known : Shadows} {t : Template}
    (ht : known.templates.get? template = some t) :
    (r.resolve w known).value.data? = some (w.unwrap template, some (t.build w data).value) := by
  have hrebuild : known.rebuild w template data = (t.build w data).map some := by
    unfold Shadows.rebuild
    rw [ht]
  rw [resolve_of_enabled hw]
  cases r with
  | updateSetWithTemplate | pushSetWithTemplate | pushSetWithTemplate2 =>
    obtain ⟨rfl, rfl⟩ := Prod.mk.inj (Option.some.inj hr)
    dsimp only [resolveWrapped]
    rw [hrebuild]
    rfl
  | _ => cases hr

/-- A request that goes by a template goes down once. -/
theorem Device.calls_perform_of_data? (hr : r.data? = some (template, data)) {s : Layer Tracked σ}
    (hs : s.world.wrapper.enabled = true)
    (hveto : s.object.registry.chain.vetoes s.world.behaviour r.command = false)
    (hprovides : s.object.table.provides r.command = true) (out : Outputs) :
    ((perform r out).run s).2.world.calls = s.world.calls ++ [⟨s.object.handle,
      .ofDevice (r.resolve s.world.wrapper s.object.own.toShadows).value,
      out.slots.map List.length⟩] := by
  cases r with
  | updateSetWithTemplate | pushSetWithTemplate | pushSetWithTemplate2 =>
    exact calls_perform_of_asksOnce hs (asksOnce_relay _ out) rfl hveto hprovides
  | _ => cases hr

end Data

/-! ### A device to ask -/

/-- A device with these entry points, in front of a scripted layer; handles are wrapped, and the
first ids stand for these handles. -/
def Scripted.device (commands : List Command) (reals : List Handle) : Layer Tracked Scripted where
  object :=
    { handle := 0xe000
      apiVersion := 0
      table := ⟨commands⟩
      registry := ⟨.new default [], []⟩
      own := .empty }
  world :=
    { wrapper := ((Wrapper.new true).wrapNewMany reals).2
      memory := .empty
      behaviour := default
      below := {}
      trace := #[] }

end HandleLayer
