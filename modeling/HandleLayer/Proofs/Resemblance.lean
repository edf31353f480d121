import HandleLayer.Proofs.Announcements
import HandleLayer.Proofs.Naming
import HandleLayer.Proofs.SkippedCalls

/-!
# What the next layer sees

The next layer sees the calls that reach it, and in them what is in memory: whether a
chain is a copy or the application's own makes no difference to it.  Two states resemble
each other if it cannot tell them apart.

## Main definitions

* `World.calls` — the calls that have reached the next layer.
* `NextLayer.ReadsValues` — a next layer that looks at the values in memory alone.
* `Layer.Resembles` — states that look the same to the next layer.
* `DeviceRequest.outcome` — what a call comes to when its answer is passed on.
* `Device.Leaves` — what a program that asks nothing does.

## Main results

* `Layer.Resembles.ask` — the same request has the same answer.
* `Device.exists_run_perform` — a call, around the part of it that can be skipped.
* `Device.run_send_of_disabled`, `Device.run_relay_of_disabled` — without wrapping, a request
  goes down as it is.
-/

namespace HandleLayer

variable {σ : Type}

/-! ### Calls -/

/-- The call that an event is. -/
def Event.call? : Event → Option Call
  | .call c => some c
  | _ => none

/-- The calls that have reached the next layer, oldest first. -/
def World.calls (w : World σ) : List Call := w.events.filterMap Event.call?

theorem filterMap_call?_announcements (objects : List ValidationObject) (hooks : List Hook) :
    (announcements objects hooks).filterMap Event.call? = [] := by
  rw [filterMap_announcements (fun _ _ => rfl)]
  exact List.filterMap_eq_nil_iff.2 fun _ _ => rfl

theorem filterMap_call?_map {α : Type} {f : α → Event} (hf : ∀ a, (f a).call? = none)
    (as : List α) : (as.map f).filterMap Event.call? = [] := by
  rw [List.filterMap_map]
  exact List.filterMap_eq_nil_iff.2 fun a _ => hf a

/-- The request as it reads in memory. -/
def Request.flat : Request → Request
  | .ofInstance r => .ofInstance r
  | .ofDevice r => .ofDevice r.flat

/-- The call as it reads in memory. -/
def Call.flat (c : Call) : Call := { c with request := c.request.flat }

/-- A next layer that looks at the values in memory, wherever they are. -/
def NextLayer.ReadsValues (σ : Type) [NextLayer σ] : Prop :=
  ∀ (c c' : Call) (s : σ), c.flat = c'.flat → answer c s = answer c' s

theorem DeviceRequest.command_flat (r : DeviceRequest) : r.flat.command = r.command := by
  cases r with
  | create info => cases info <;> rfl
  | _ => rfl

theorem Request.command_flat (r : Request) : r.flat.command = r.command := by
  cases r with
  | ofInstance r => rfl
  | ofDevice r => exact r.command_flat

namespace Layer

/-- States that look the same to the next layer: the same device, the same validation
objects, the same state below, and the same calls so far. -/
structure Resembles (s t : Layer Tracked σ) : Prop where
  object : t.object.withOwn .empty = s.object.withOwn .empty
  behaviour : t.world.behaviour = s.world.behaviour
  below : t.world.below = s.world.below
  calls : t.world.calls.map Call.flat = s.world.calls.map Call.flat

namespace Resembles

variable {s t u : Layer Tracked σ}

theorem refl (s : Layer Tracked σ) : s.Resembles s := ⟨rfl, rfl, rfl, rfl⟩

theorem symm (h : s.Resembles t) : t.Resembles s :=
  ⟨h.object.symm, h.behaviour.symm, h.below.symm, h.calls.symm⟩

theorem trans (h : s.Resembles t) (h' : t.Resembles u) : s.Resembles u :=
  ⟨h'.object.trans h.object, h'.behaviour.trans h.behaviour, h'.below.trans h.below,
    h'.calls.trans h.calls⟩

theorem handle (h : s.Resembles t) : t.object.handle = s.object.handle := by
  have hobject := congrArg Dispatch.handle h.object
  exact hobject

theorem table (h : s.Resembles t) : t.object.table = s.object.table := by
  have hobject := congrArg Dispatch.table h.object
  exact hobject

theorem registry (h : s.Resembles t) : t.object.registry = s.object.registry := by
  have hobject := congrArg Dispatch.registry h.object
  exact hobject

/-- Whether a call is skipped is the same. -/
theorem vetoes (h : s.Resembles t) (c : Command) :
    t.object.registry.chain.vetoes t.world.behaviour c
      = s.object.registry.chain.vetoes s.world.behaviour c := by
  rw [h.registry, h.behaviour]

end Resembles

/-! ### Changes that cannot be seen -/

theorem resembles_withOwn (own : Tracked) (s : Layer Tracked σ) : s.Resembles (s.withOwn own) :=
  ⟨rfl, rfl, rfl, rfl⟩

theorem resembles_withWrapper (wrapper : Wrapper) (s : Layer Tracked σ) :
    s.Resembles (s.withWrapper wrapper) := ⟨rfl, rfl, rfl, rfl⟩

theorem calls_see (es : List Event) (w : World σ) :
    (w.see es).calls = w.calls ++ es.filterMap Event.call? := by
  rw [World.calls, World.events_see, List.filterMap_append]
  rfl

/-- A request that is handed down is one more call, if the next layer has the entry point. -/
theorem calls_ask {δ : Type} [NextLayer σ] (s : Layer δ σ) (request : Request)
    (room : Option Nat) :
    (s.ask request room).world.calls = s.world.calls ++
      if s.object.table.provides request.command then [⟨s.object.handle, request, room⟩]
      else [] := by
  unfold Layer.ask
  split
  · exact calls_see _ s.world
  · exact (List.append_nil _).symm

/-- Other events than calls do not matter. -/
theorem calls_seen {δ : Type} {es : List Event} (hes : es.filterMap Event.call? = [])
    {s : Layer δ σ} : (s.see es).world.calls = s.world.calls := by
  show (s.world.see es).calls = _
  rw [calls_see, hes, List.append_nil]

/-- Events other than calls. -/
theorem resembles_see {es : List Event} (hes : es.filterMap Event.call? = [])
    (s : Layer Tracked σ) : s.Resembles (s.see es) := by
  refine ⟨rfl, rfl, rfl, ?_⟩
  rw [calls_seen hes]

theorem resembles_births (objects : List ValidationObject) (type : ObjectType)
    (hs : List Handle) (s : Layer Tracked σ) : s.Resembles (s.see (births objects type hs)) :=
  resembles_see (filterMap_call?_announcements _ _) s

theorem resembles_deaths (objects : List ValidationObject) (type : ObjectType)
    (hs : List Handle) (s : Layer Tracked σ) : s.Resembles (s.see (deaths objects type hs)) :=
  resembles_see (filterMap_call?_announcements _ _) s

/-! ### Requests -/

variable [NextLayer σ]

/-- **The same request has the same answer**, and leads to states that look the same. -/
theorem Resembles.ask {s t : Layer Tracked σ} (hlayer : NextLayer.ReadsValues σ)
    (h : s.Resembles t) {r r' : Request} (hflat : r'.flat = r.flat) (room : Option Nat) :
    t.reply r' room = s.reply r room ∧ (s.ask r room).Resembles (t.ask r' room) := by
  have hcommand : r'.command = r.command := by
    rw [← Request.command_flat r', hflat, Request.command_flat]
  -- the next layer is given calls that read the same, in the same state
  have hcall : (⟨t.object.handle, r', room⟩ : Call).flat
      = (⟨s.object.handle, r, room⟩ : Call).flat := by
    show Call.mk t.object.handle r'.flat room = Call.mk s.object.handle r.flat room
    rw [h.handle, hflat]
  have hanswer : NextLayer.answer ⟨t.object.handle, r', room⟩ t.world.below
      = NextLayer.answer ⟨s.object.handle, r, room⟩ s.world.below := by
    rw [h.below]
    exact hlayer _ _ _ hcall
  unfold Layer.reply Layer.ask
  rw [hcommand, h.table, hanswer]
  split
  · refine ⟨rfl, h.object, h.behaviour, rfl, ?_⟩
    show ((t.world.see _).calls).map Call.flat = ((s.world.see _).calls).map Call.flat
    rw [calls_see, calls_see, List.map_append, List.map_append, h.calls]
    exact congrArg (List.map Call.flat s.world.calls ++ ·) (congrArg (fun c => [c]) hcall)
  · exact ⟨rfl, h⟩

end Layer

/-! ### Around the part that can be skipped -/

/-- The same children are known, and the same secondary command buffers. -/
structure Tracked.Matches (t t' : Tracked) : Prop where
  poolSets : t'.poolSets = t.poolSets
  swapchainImages : t'.swapchainImages = t.swapchainImages
  secondaries : t'.secondaries = t.secondaries

namespace Tracked.Matches

variable {t t' t'' : Tracked}

theorem refl (t : Tracked) : t.Matches t := ⟨rfl, rfl, rfl⟩

theorem trans (h : t.Matches t') (h' : t'.Matches t'') : t.Matches t'' :=
  ⟨h'.poolSets.trans h.poolSets, h'.swapchainImages.trans h.swapchainImages,
    h'.secondaries.trans h.secondaries⟩

theorem setsOf (h : t.Matches t') (pool : Handle) : t'.setsOf pool = t.setsOf pool := by
  unfold Tracked.setsOf
  rw [h.poolSets]

theorem imagesOf (h : t.Matches t') (swapchain : Handle) :
    t'.imagesOf swapchain = t.imagesOf swapchain := by
  unfold Tracked.imagesOf
  rw [h.swapchainImages]

end Tracked.Matches

/-- A state that looks the same, and in which the same surrogates and the same children
are known. -/
structure Layer.Matches (s t : Layer Tracked σ) : Prop where
  resembles : s.Resembles t
  wrapper : t.world.wrapper = s.world.wrapper
  own : s.object.own.Matches t.object.own

namespace Layer.Matches

variable {s t u : Layer Tracked σ}

theorem refl (s : Layer Tracked σ) : s.Matches s := ⟨.refl s, rfl, .refl _⟩

theorem trans (h : s.Matches t) (h' : t.Matches u) : s.Matches u :=
  ⟨h.resembles.trans h'.resembles, h'.wrapper.trans h.wrapper, h.own.trans h'.own⟩

theorem see {es : List Event} (hes : es.filterMap Event.call? = []) (s : Layer Tracked σ) :
    s.Matches (s.see es) := ⟨Layer.resembles_see hes s, rfl, .refl _⟩

end Layer.Matches

/-- The secondary command buffers that stay when a request is brought before the validation
objects. -/
def Tracked.spared (t : Tracked) : DeviceRequest → Tracked
  | .destroy .commandPool h => t.forgetCommandPool h
  | _ => t

namespace Device

theorem filterMap_call?_lost (t : Tracked) (r : DeviceRequest) :
    (t.lost r).filterMap Event.call? = [] := by
  unfold Tracked.lost
  split
  · split
    · rfl
    · next p hp => exact filterMap_call?_map (fun _ => rfl) p.retained
  · rfl

/-- What a call forgets at its beginning, apart from secondary command buffers, does not
matter for what it does with handles. -/
theorem matches_prepared (r : DeviceRequest) (es : List Event)
    (hes : es.filterMap Event.call? = []) (s : Layer Tracked σ) :
    (s.withOwn (s.object.own.spared r)).Matches
      ((s.withOwn (s.object.own.prepared r)).see (s.object.own.lost r ++ es)) := by
  have hlost : (s.object.own.lost r ++ es).filterMap Event.call? = [] := by
    rw [List.filterMap_append, filterMap_call?_lost, hes]
    rfl
  have hown : (s.object.own.spared r).Matches (s.object.own.prepared r) := by
    cases r with
    | destroy kind h => cases kind <;> exact ⟨rfl, rfl, rfl⟩
    | _ => exact ⟨rfl, rfl, rfl⟩
  have hresembles : (s.withOwn (s.object.own.spared r)).Resembles
      (s.withOwn (s.object.own.prepared r)) :=
    (Layer.resembles_withOwn _ s).symm.trans (Layer.resembles_withOwn _ s)
  exact .trans ⟨hresembles, rfl, hown⟩ (.see hlost _)

/-- What is remembered after a call does not matter for what it does with handles. -/
theorem exists_run_conclude (r : DeviceRequest) (result : Result) (out : Outputs)
    (s : Layer Tracked σ) :
    ∃ t, (conclude r result out).run s = ((), t) ∧ s.Matches t := by
  cases r with
  | create info =>
    unfold conclude
    rw [run_bind_of (run_wrapping s)]
    split
    · split
      · next h rest hslots =>
        refine ⟨_, run_modifyOwn _ s, Layer.resembles_withOwn _ s, rfl, ?_⟩
        cases info <;> exact ⟨rfl, rfl, rfl⟩
      · exact ⟨s, rfl, .refl s⟩
    · exact ⟨s, rfl, .refl s⟩
  | createRayTracingPipelines batch =>
    exact ⟨_, rfl, ⟨rfl, rfl, rfl, rfl⟩, rfl, .refl _⟩
  | _ => exact ⟨s, rfl, .refl s⟩

variable [NextLayer σ]

/-- A call that is skipped. -/
theorem exists_run_perform_of_vetoes {r : DeviceRequest} {s : Layer Tracked σ}
    (hveto : s.object.registry.chain.vetoes s.world.behaviour r.command = true)
    (out : Outputs) :
    ∃ t, (perform r out).run s = ((.validationFailed, out), t) ∧
      (s.withOwn (s.object.own.spared r)).Matches t := by
  refine ⟨_, run_perform_of_vetoes hveto, ?_⟩
  let objects := s.object.registry.chain.intercepting r.command
  have hasked : (toldEach objects (.validate r.command)).filterMap Event.call? = [] :=
    filterMap_toldEach (fun _ => rfl) objects
  exact (matches_prepared r _ hasked s).trans
    ⟨⟨rfl, rfl, rfl, rfl⟩, rfl, .refl _⟩

/-- A call that is not skipped goes through the part of it that could be. -/
theorem exists_run_perform {r : DeviceRequest} {s : Layer Tracked σ}
    (hveto : s.object.registry.chain.vetoes s.world.behaviour r.command = false)
    (out : Outputs) :
    ∃ s' t, (s.withOwn (s.object.own.spared r)).Matches s' ∧
      ((serve r out).run s').2.Matches t ∧
      (perform r out).run s = (((serve r out).run s').1, t) := by
  -- the objects are asked and told before the request, and told again after it
  let objects := s.object.registry.chain.intercepting r.command
  let asked := toldBefore objects r.command
  let begun := (s.withOwn (s.object.own.prepared r)).see (s.object.own.lost r)
  let s' := (s.withOwn (s.object.own.prepared r)).see (s.object.own.lost r ++ asked)
  have hcall : (intercept r.command out (serve r out)).run begun
      = (((serve r out).run s').1, ((serve r out).run s').2.see
          (toldEach objects (.after r.command ((serve r out).run s').1.1))) := by
    have hsee : begun.see asked = s' := Layer.see_see _ _ _
    rw [← hsee]
    exact run_intercept hveto
  rcases hserve : (serve r out).run s' with ⟨⟨result, out'⟩, t'⟩
  rw [hserve] at hcall
  obtain ⟨t, hconclude, hmatches⟩ := exists_run_conclude r result out'
    (t'.see (toldEach objects (.after r.command result)))
  refine ⟨s', t, matches_prepared r asked (filterMap_toldBefore (fun _ _ => rfl) _ _) s,
    ?_, ?_⟩
  · rw [hserve]
    exact (Layer.Matches.see (filterMap_toldEach (fun _ => rfl) objects) t').trans hmatches
  · unfold perform
    rw [run_bind_of (run_prepare r s), run_bind_of hcall]
    dsimp only
    rw [run_bind_of hconclude, hserve]
    rfl

end Device

/-! ### The calls of a call -/

namespace Device

/-- What is kept of a call is nothing that the next layer sees. -/
theorem calls_conclude (r : DeviceRequest) (result : Result) (out : Outputs)
    (s : Layer Tracked σ) : ((conclude r result out).run s).2.world.calls = s.world.calls := by
  cases r with
  | create info =>
    unfold conclude
    rw [run_bind_of (run_wrapping s)]
    split
    · split
      · rfl
      · rfl
    · rfl
  | _ => rfl

variable [NextLayer σ]

/-- A request of the application is one more call, if the next layer has the entry point. -/
theorem calls_sent (r : DeviceRequest) (room : Option Nat) (s : Layer Tracked σ) :
    (sent r room s).world.calls = s.world.calls ++
      if s.object.table.provides r.command then
        [⟨s.object.handle,
          .ofDevice (r.resolve s.world.wrapper s.object.own.toShadows).value, room⟩]
      else [] := by
  unfold sent
  rw [Layer.calls_ask]
  show ((s.world.see _).calls ++ if s.object.table.provides (r.resolve _ _).value.command
    then _ else _) = _
  rw [Layer.calls_see, filterMap_call?_map (fun _ => rfl), List.append_nil, r.command_resolve]
  rfl

/-- The next layer is called in that part of a call only that can be skipped. -/
theorem calls_perform {r : DeviceRequest} {out : Outputs} {s : Layer Tracked σ}
    (hveto : s.object.registry.chain.vetoes s.world.behaviour r.command = false) :
    ((perform r out).run s).2.world.calls
      = ((serve r out).run ((s.withOwn (s.object.own.prepared r)).see (s.object.own.lost r ++
          toldBefore (s.object.registry.chain.intercepting r.command)
            r.command))).2.world.calls := by
  rw [run_perform hveto]
  dsimp only
  rw [calls_conclude]
  exact Layer.calls_seen (filterMap_toldEach (fun _ => rfl) _)

end Device

/-! ### Programs with known effects on what is kept -/

namespace Device

/-- From the surrogates `w` and the children `t`, a program comes to the value `a`, the
surrogates `w'` and the children `t'`, and does nothing else that can be seen. -/
def Leaves {α : Type} (w : Wrapper) (t : Tracked) (p : DeviceM σ α) (a : α) (w' : Wrapper)
    (t' : Tracked) : Prop :=
  ∀ s : Layer Tracked σ, s.world.wrapper = w → s.object.own = t →
    ∃ u, p.run s = (a, u) ∧ s.Resembles u ∧ u.world.wrapper = w' ∧ u.object.own = t'

namespace Leaves

variable {α β : Type} {w w' w'' : Wrapper} {t t' t'' : Tracked} {p : DeviceM σ α}
  {f : α → DeviceM σ β} {a : α} {b : β}

theorem pure (a : α) : Leaves w t (Pure.pure a : DeviceM σ α) a w t :=
  fun s hw ht => ⟨s, rfl, .refl s, hw, ht⟩

theorem bind (hp : Leaves w t p a w' t') (hf : Leaves w' t' (f a) b w'' t'') :
    Leaves w t (p >>= f) b w'' t'' := by
  intro s hw ht
  obtain ⟨u, hrun, hresembles, hu, hut⟩ := hp s hw ht
  obtain ⟨v, hrun', hresembles', hv, hvt⟩ := hf u hu hut
  exact ⟨v, (run_bind_of hrun f).trans hrun', hresembles.trans hresembles', hv, hvt⟩

theorem getOwn_bind {f : Tracked → DeviceM σ β} (hf : Leaves w t (f t) b w' t') :
    Leaves w t (getOwn >>= f) b w' t' := by
  rintro s hw rfl
  exact hf s hw rfl

theorem wrapping_bind {f : Bool → DeviceM σ β} {enabled : Bool} (hw : w.enabled = enabled)
    (hf : Leaves w t (f enabled) b w' t') : Leaves w t (wrapping >>= f) b w' t' := by
  rintro s rfl ht
  have hwrapping : (wrapping : DeviceM σ Bool).run s = (enabled, s) := by rw [run_wrapping, hw]
  rw [run_bind_of hwrapping]
  exact hf s rfl ht

theorem modifyOwn (f : Tracked → Tracked) :
    Leaves w t (HandleLayer.modifyOwn f : DeviceM σ Unit) () w (f t) := by
  rintro s hw rfl
  exact ⟨_, rfl, Layer.resembles_withOwn _ s, hw, rfl⟩

theorem wrapNew (real : Handle) :
    Leaves w t (HandleLayer.wrapNew real : DeviceM σ Handle) (w.wrapNew real).1
      (w.wrapNew real).2 t := by
  rintro s rfl ht
  exact ⟨_, run_wrapNew real s, Layer.resembles_withWrapper _ s, rfl, ht⟩

theorem wrapNewMany (reals : List Handle) :
    Leaves w t (HandleLayer.wrapNewMany reals : DeviceM σ (List Handle))
      (w.wrapNewMany reals).1 (w.wrapNewMany reals).2 t := by
  rintro s rfl ht
  exact ⟨_, run_wrapNewMany reals s, Layer.resembles_withWrapper _ s, rfl, ht⟩

theorem eraseHandle (h : Handle) :
    Leaves w t (HandleLayer.eraseHandle h : DeviceM σ Unit) () (w.erase h) t := by
  rintro s rfl ht
  exact ⟨_, run_eraseHandle h s, Layer.resembles_withWrapper _ s, rfl, ht⟩

theorem forM_eraseHandle (hs : List Handle) :
    Leaves w t (hs.forM HandleLayer.eraseHandle : DeviceM σ Unit) () (w.eraseMany hs) t := by
  rintro s rfl ht
  exact ⟨_, run_forM_eraseHandle hs s, Layer.resembles_withWrapper _ s, rfl, ht⟩

theorem announceCreated (type : ObjectType) (h : Handle) :
    Leaves w t (HandleLayer.announceCreated type h : DeviceM σ Unit) () w t :=
  fun s hw ht => ⟨_, run_announceCreated type h s, Layer.resembles_births _ _ _ s, hw, ht⟩

theorem forM_announceCreated (type : ObjectType) (hs : List Handle) :
    Leaves w t (hs.forM (HandleLayer.announceCreated type) : DeviceM σ Unit) () w t :=
  fun s hw ht => ⟨_, run_forM_announceCreated type hs s, Layer.resembles_births _ _ _ s, hw, ht⟩

theorem announceDestroyed (type : ObjectType) (h : Handle) :
    Leaves w t (HandleLayer.announceDestroyed type h : DeviceM σ Unit) () w t :=
  fun s hw ht => ⟨_, run_announceDestroyed type h s, Layer.resembles_deaths _ _ _ s, hw, ht⟩

theorem forM_announceDestroyed (type : ObjectType) (hs : List Handle) :
    Leaves w t (hs.forM (HandleLayer.announceDestroyed type) : DeviceM σ Unit) () w t :=
  fun s hw ht =>
    ⟨_, run_forM_announceDestroyed type hs s, Layer.resembles_deaths _ _ _ s, hw, ht⟩

theorem dropSets (sets : List Handle) :
    Leaves w t (Device.dropSets sets : DeviceM σ Unit) () (w.eraseMany sets) t := by
  rintro s rfl ht
  refine ⟨_, run_dropSets sets s, ?_, rfl, ht⟩
  exact (Layer.resembles_withWrapper _ s).trans (Layer.resembles_deaths _ _ _ _)

/-- The value and what is left, taken together. -/
theorem of_eq {x : α × Wrapper × Tracked} (h : Leaves w t p a w' t') (hx : x = (a, w', t')) :
    Leaves w t p x.1 x.2.1 x.2.2 := by
  rw [hx]
  exact h

end Leaves

end Device

/-! ### Answers passed on -/

namespace DeviceRequest

/-- Whether the entry point of a request has neither a result nor outputs. -/
def isSilent : DeviceRequest → Bool
  | destroy .. => true
  | freeCommandBuffers .. => true
  | _ => false

/-- The room that the next layer is given for handles. -/
def room (r : DeviceRequest) (out : Outputs) : Option Nat :=
  if r.isSilent then none else out.slots.map List.length

/-- What a call comes to when the answer is passed on. -/
def outcome (r : DeviceRequest) (reply : Reply) (out : Outputs) : Result × Outputs :=
  if r.isSilent then (.success, out) else (reply.result, reply.write [] out)

theorem isSilent_mapHandles (f : Handle → Handle) (r : DeviceRequest) :
    (r.mapHandles f).isSilent = r.isSilent := by
  cases r <;> rfl

theorem room_mapHandles (f : Handle → Handle) (r : DeviceRequest) (out : Outputs) :
    (r.mapHandles f).room out = r.room out := by
  unfold room
  rw [isSilent_mapHandles]

theorem outcome_mapHandles (f : Handle → Handle) (r : DeviceRequest) (reply : Reply)
    (out : Outputs) : (r.mapHandles f).outcome reply out = r.outcome reply out := by
  unfold outcome
  rw [isSilent_mapHandles]

/-- The next layer has no outputs in the chains of the requests that are followed. -/
theorem chains_resolve {r : DeviceRequest} (hr : r.isCovered = true) (w : Wrapper)
    (t : Shadows) : (r.resolve w t).value.chains = [] := by
  cases r with
  | create | destroy | releaseConfiguration | resetDescriptorPool | allocateSets | freeSets
  | updateSets | beginRenderPass | allocateCommandBuffers | freeCommandBuffers
  | beginCommandBuffer | getSwapchainImages | acquireNextImage | present | labelObject =>
    unfold resolve
    split <;> rfl
  | _ => exact absurd hr Bool.false_ne_true

end DeviceRequest

namespace Device

variable [NextLayer σ]

theorem run_relay_of_isCovered {r : DeviceRequest} (hr : r.isCovered = true) (out : Outputs)
    (s : Layer Tracked σ) :
    (relay r out).run s
      = (((answer r (out.slots.map List.length) s).result,
            (answer r (out.slots.map List.length) s).write [] out),
          sent r (out.slots.map List.length) s) := by
  rw [run_relay, DeviceRequest.chains_resolve hr]

/-! ### Without wrapping -/

section Plain

variable {s : Layer Tracked σ} (hs : s.world.wrapper.enabled = false)

include hs

theorem answer_of_disabled (r : DeviceRequest) (room : Option Nat) :
    answer r room s = s.reply (.ofDevice r) room := by
  unfold answer
  rw [DeviceRequest.resolve_of_disabled hs]
  rfl

theorem sent_of_disabled (r : DeviceRequest) (room : Option Nat) :
    sent r room s = s.ask (.ofDevice r) room := by
  unfold sent
  rw [DeviceRequest.resolve_of_disabled hs]
  show (s.see []).ask (.ofDevice r) room = _
  rw [Layer.see_nil]

theorem run_send_of_disabled (r : DeviceRequest) (room : Option Nat) :
    (send r room).run s = ((r, s.reply (.ofDevice r) room), s.ask (.ofDevice r) room) := by
  rw [run_send, DeviceRequest.resolve_of_disabled hs, answer_of_disabled hs, sent_of_disabled hs]
  rfl

theorem run_relay_of_disabled (r : DeviceRequest) (out : Outputs) :
    (relay r out).run s
      = (((s.reply (.ofDevice r) (out.slots.map List.length)).result,
            (s.reply (.ofDevice r) (out.slots.map List.length)).write r.chains out),
          s.ask (.ofDevice r) (out.slots.map List.length)) := by
  rw [run_relay, answer_of_disabled hs, sent_of_disabled hs, DeviceRequest.resolve_of_disabled hs]
  rfl

end Plain

end Device

end HandleLayer
