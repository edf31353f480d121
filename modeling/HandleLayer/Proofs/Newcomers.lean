import HandleLayer.Proofs.AtOnceOrLater
import HandleLayer.Proofs.UnwrappedRuns

/-!
# Which newcomers are announced

Objects come to the notice of the application by calls of several kinds: one at a time, many at a
time, or as images of a swapchain that exists already.  While handles are wrapped, each of them is
announced by the call that brings it.  Otherwise only objects that are created one at a time are
announced.  The end of an object is announced in either case, whoever has created it.

## Main definitions

* `Announces` — what is announced from one state to the next.
* `DeviceRequest.debuts`, `DeviceRequest.departures` — the objects that a call brings to the notice
  of the application, and those that it does away with.
* `DeviceRequest.welcomed` — the newcomers that are announced.

## Main results

* `Device.announces_serve` — what the part of a call announces that can be skipped.
* `Device.announces_perform` — **what a call to a device announces.**
* `Instance.announces_perform` — what a call to an instance announces.
-/

namespace HandleLayer

variable {σ : Type}

/-! ### Announcements from state to state -/

/-- The handles that are not null, as objects of a type. -/
def objectsOf (type : ObjectType) (hs : List Handle) : List (ObjectType × Handle) :=
  (hs.filter (· ≠ 0)).map (type, ·)

@[simp] theorem objectsOf_nil (type : ObjectType) : objectsOf type [] = [] := rfl

theorem objectsOf_append (type : ObjectType) (hs hs' : List Handle) :
    objectsOf type (hs ++ hs') = objectsOf type hs ++ objectsOf type hs' := by
  rw [objectsOf, List.filter_append, List.map_append]
  rfl

theorem mem_objectsOf {type : ObjectType} {hs : List Handle} {p : ObjectType × Handle} :
    p ∈ objectsOf type hs ↔ p.1 = type ∧ p.2 ∈ hs ∧ p.2 ≠ 0 := by
  obtain ⟨type', h⟩ := p
  simp only [objectsOf, List.mem_map, List.mem_filter, decide_eq_true_eq, Prod.mk.injEq]
  constructor
  · rintro ⟨h', ⟨hmem, hzero⟩, rfl, rfl⟩
    exact ⟨rfl, hmem, hzero⟩
  · rintro ⟨rfl, hmem, hzero⟩
    exact ⟨h, ⟨hmem, hzero⟩, rfl, rfl⟩

/-- From one state to the next the objects `born` are announced as created, and the objects `gone`
as destroyed, in this order. -/
def Announces (born gone : List (ObjectType × Handle)) (w w' : World σ) : Prop :=
  ∃ es, w'.events = w.events ++ es ∧ createdIn es = born ∧ destroyedIn es = gone

namespace Announces

variable {born gone born' gone' : List (ObjectType × Handle)} {w w' w'' : World σ}

theorem of_quiet (h : Quiet w w') : Announces [] [] w w' := h.2

theorem trans (h : Announces born gone w w') (h' : Announces born' gone' w' w'') :
    Announces (born ++ born') (gone ++ gone') w w'' := by
  obtain ⟨es, hevents, rfl, rfl⟩ := h
  obtain ⟨es', hevents', rfl, rfl⟩ := h'
  exact ⟨es ++ es', append_events hevents hevents', createdIn_append es es',
    destroyedIn_append es es'⟩

theorem before (h : Announces born gone w' w'') (hquiet : Quiet w w') :
    Announces born gone w w'' :=
  (of_quiet hquiet).trans h

theorem after (h : Announces born gone w w') (hquiet : Quiet w' w'') :
    Announces born gone w w'' := by
  have hboth := h.trans (of_quiet hquiet)
  rwa [List.append_nil, List.append_nil] at hboth

/-- Objects are announced as created, after something quiet. -/
theorem of_births (h : Quiet w w') (objects : List ValidationObject) (type : ObjectType)
    (hs : List Handle) (hevents : w''.events = w'.events ++ births objects type hs) :
    Announces (objectsOf type hs) [] w w'' :=
  before ⟨_, hevents, createdIn_births objects type hs, destroyedIn_births _ _ _⟩ h

/-- Objects are announced as destroyed. -/
theorem of_deaths (h : Announces born gone w w') (objects : List ValidationObject)
    (type : ObjectType) (hs : List Handle)
    (hevents : w''.events = w'.events ++ deaths objects type hs) :
    Announces born (gone ++ objectsOf type hs) w w'' := by
  have hdeaths : Announces [] (objectsOf type hs) w' w'' :=
    ⟨_, hevents, createdIn_deaths _ _ _, destroyedIn_deaths objects type hs⟩
  have hboth := h.trans hdeaths
  rwa [List.append_nil] at hboth

theorem created (h : Announces born gone w w') :
    createdIn w'.events = createdIn w.events ++ born := by
  obtain ⟨es, hevents, rfl, rfl⟩ := h
  rw [hevents, createdIn_append]

end Announces

/-- Programs that may announce nothing. -/
instance : Composable (Announces (σ := σ) [] []) :=
  ⟨Announces.of_quiet, fun h h' => h.trans h'⟩

theorem silent_of_isAside {es : List Event} (h : es.all Event.isAside = true) : Silent es := by
  refine silent_of_forall fun e he => ?_
  have haside := List.all_eq_true.1 h e he
  cases e with
  | announced => cases haside
  | _ => exact ⟨rfl, rfl⟩

/-- Mere talk is no announcement. -/
theorem Layer.Idles.quiet {s t : Layer Tracked σ} (h : s.Idles t) : Quiet s.world t.world := by
  obtain ⟨es, hroutine, hevents⟩ := h.events
  exact ⟨h.wrapper, es, hevents, silent_of_isRoutine hroutine⟩

/-! ### What calls bring and take away -/

namespace DeviceRequest

/-- Whether a request creates one object of its own. -/
def createsOne : DeviceRequest → Bool
  | create _ => true
  | _ => false

/-- The objects that a call has brought to the notice of the application, when `t` was kept of the
device before: those that it has created, and images of a swapchain that were not reported
before.  Pipelines count whatever the result is, unless they were put off. -/
def debuts (r : DeviceRequest) (t : Tracked) (o : Outcome) : List (ObjectType × Handle) :=
  match r with
  | create info => if o.1 = .success then objectsOf info.objectType (o.2.first 1) else []
  | allocateSets _ layouts =>
    if o.1 = .success then objectsOf .descriptorSet (o.2.first layouts.count) else []
  | createGraphicsPipelines _ infos => objectsOf .pipeline (o.2.first infos.count)
  | createComputePipelines _ infos => objectsOf .pipeline (o.2.first infos.count)
  | createRayTracingPipelines _ operation _ infos =>
    if Device.isDeferred o.1 operation then [] else objectsOf .pipeline (o.2.first infos.count)
  | getSwapchainImages swapchain =>
    if o.1.reports then
      objectsOf .image ((o.2.first o.2.count.toNat).drop (t.imagesOf swapchain).length)
    else []
  | _ => []

/-- The newcomers that a call announces: all of them while handles are wrapped, and otherwise only
an object that it has created alone. -/
def welcomed (r : DeviceRequest) (wraps : Bool) (t : Tracked) (o : Outcome) :
    List (ObjectType × Handle) :=
  if wraps = true ∨ r.createsOne = true then r.debuts t o else []

/-- The objects that a call with this result has done away with, when `t` was kept of the device
before: the one that it names, with its children.  Sets count only if handles are wrapped. -/
def departures (r : DeviceRequest) (t : Tracked) (wraps : Bool) (result : Result) :
    List (ObjectType × Handle) :=
  match r with
  | destroy kind h =>
    match kind with
    | .descriptorPool =>
      objectsOf .descriptorSet (t.setsOf h).toList ++ objectsOf .descriptorPool [h]
    | .swapchain => objectsOf .image (t.imagesOf h) ++ objectsOf .swapchain [h]
    | kind => objectsOf kind.objectType [h]
  | releaseConfiguration h =>
    if result = .success then objectsOf .performanceConfiguration [h] else []
  | resetDescriptorPool pool _ =>
    if result = .success then objectsOf .descriptorSet (t.setsOf pool).toList else []
  | freeSets _ sets =>
    if wraps = true ∧ result = .success then objectsOf .descriptorSet sets.toList else []
  | _ => []

/-- What goes was named or is a child, and it is not null. -/
theorem of_mem_departures {r : DeviceRequest} {t : Tracked} {wraps : Bool} {result : Result}
    {p : ObjectType × Handle} (hp : p ∈ r.departures t wraps result) :
    p.2 ≠ 0 ∧ (p ∈ r.named ∨ (p.1 = .descriptorSet ∧ ∃ pool, p.2 ∈ t.setsOf pool) ∨
      (p.1 = .image ∧ ∃ swapchain, p.2 ∈ t.imagesOf swapchain)) := by
  have hone : ∀ {type : ObjectType} {h : Handle}, p ∈ objectsOf type [h] →
      p.2 ≠ 0 ∧ p = (type, h) := fun hmem => by
    obtain ⟨htype, hh, hzero⟩ := mem_objectsOf.1 hmem
    exact ⟨hzero, Prod.ext htype (List.mem_singleton.1 hh)⟩
  have hsets : ∀ {pool : Handle}, p ∈ objectsOf .descriptorSet (t.setsOf pool).toList →
      p.2 ≠ 0 ∧ p.1 = .descriptorSet ∧ ∃ pool, p.2 ∈ t.setsOf pool := fun hmem => by
    obtain ⟨htype, hh, hzero⟩ := mem_objectsOf.1 hmem
    exact ⟨hzero, htype, _, Std.ExtTreeSet.mem_toList.1 hh⟩
  -- only the calls that end something, one by one
  cases r with
  | destroy kind h =>
    have hself : ∀ {type : ObjectType}, type = kind.objectType → p ∈ objectsOf type [h] →
        p.2 ≠ 0 ∧ (p ∈ (destroy kind h).named ∨
          (p.1 = .descriptorSet ∧ ∃ pool, p.2 ∈ t.setsOf pool) ∨
          (p.1 = .image ∧ ∃ swapchain, p.2 ∈ t.imagesOf swapchain)) := by
      rintro type rfl hmem
      obtain ⟨hzero, rfl⟩ := hone hmem
      exact ⟨hzero, .inl List.mem_cons_self⟩
    cases kind with
    | descriptorPool =>
      rcases List.mem_append.1 hp with hmem | hmem
      · obtain ⟨hzero, htype, hpool⟩ := hsets hmem
        exact ⟨hzero, .inr (.inl ⟨htype, hpool⟩)⟩
      · exact hself rfl hmem
    | swapchain =>
      rcases List.mem_append.1 hp with hmem | hmem
      · obtain ⟨htype, hh, hzero⟩ := mem_objectsOf.1 hmem
        exact ⟨hzero, .inr (.inr ⟨htype, h, hh⟩)⟩
      · exact hself rfl hmem
    | _ => exact hself rfl hp
  | releaseConfiguration h =>
    have hmem := (List.mem_ite_nil_right.1 hp).2
    obtain ⟨hzero, rfl⟩ := hone hmem
    exact ⟨hzero, .inl List.mem_cons_self⟩
  | resetDescriptorPool pool flags =>
    have hmem := (List.mem_ite_nil_right.1 hp).2
    obtain ⟨hzero, htype, hpool⟩ := hsets hmem
    exact ⟨hzero, .inr (.inl ⟨htype, hpool⟩)⟩
  | freeSets pool sets =>
    have hmem := (List.mem_ite_nil_right.1 hp).2
    obtain ⟨htype, hh, hzero⟩ := mem_objectsOf.1 hmem
    exact ⟨hzero, .inl (List.mem_map.2 ⟨p.2, hh, Prod.ext htype.symm rfl⟩)⟩
  | _ => cases hp

end DeviceRequest

/-! ### The part of a call that can be skipped -/

namespace Device

variable [NextLayer σ]

/-- Handing a request down is quiet, whatever comes back. -/
theorem exists_relayed (r : DeviceRequest) (out : Outputs) (s : Layer Tracked σ) :
    ∃ (t : Layer Tracked σ) (result : Result) (written : Outputs),
      (relay r out).run s = ((result, written), t) ∧ Quiet s.world t.world ∧
        t.object = s.object :=
  ⟨_, _, _, run_relay r out s, quiet_sent r _ s, object_sent r _ s⟩

theorem announces_createObject (info : CreateInfo) (out : Outputs) (s : Layer Tracked σ) :
    let u := (createObject info out).run s
    Announces ((DeviceRequest.create info).debuts s.object.own u.1) [] s.world u.2.world := by
  intro u
  have hrun : u = (createObject info out).run s := rfl
  obtain ⟨t, result, written, hrelay, hquiet, -⟩ := exists_relayed (.create info) out s
  unfold createObject at hrun
  rw [run_bind_of hrelay] at hrun
  dsimp only at hrun
  -- without a slot there is nothing to create
  have hnone : written.slots.getD [] = [] → u = ((result, written), t) →
      Announces ((DeviceRequest.create info).debuts s.object.own u.1) [] s.world u.2.world := by
    intro hslots hu
    have hborn : (DeviceRequest.create info).debuts s.object.own u.1 = [] := by
      rw [hu]
      unfold DeviceRequest.debuts Outputs.first
      dsimp only
      rw [hslots, List.take_nil, objectsOf_nil, ite_self]
    rw [hborn, hu]
    exact .of_quiet hquiet
  cases hslots : written.slots with
  | none =>
    rw [hslots] at hrun
    exact hnone (by rw [hslots]; rfl) hrun
  | some slots =>
    rw [hslots] at hrun
    cases slots with
    | nil => exact hnone (by rw [hslots]; rfl) hrun
    | cons real rest =>
      dsimp only at hrun
      unfold DeviceRequest.debuts
      by_cases hsuccess : result = .success
      · rw [if_pos hsuccess, run_bind_of (run_wrapNew real _),
          run_bind_of (run_announceCreated _ _ _), run_pure] at hrun
        rw [hrun]
        dsimp only
        rw [if_pos hsuccess]
        exact .of_births hquiet _ _ _ (World.events_see _ _)
      · rw [if_neg hsuccess, run_pure] at hrun
        rw [hrun]
        dsimp only
        rw [if_neg hsuccess]
        exact .of_quiet hquiet

omit [NextLayer σ] in
/-- The first slots afterwards hold the surrogates of what was in them. -/
theorem first_publish (w : Wrapper) (count : Nat) (out : Outputs) :
    (out.publish w count).first count = (w.wrapNewMany (out.first count)).1 :=
  Outputs.first_present (w.length_wrapNewMany _)

omit [NextLayer σ] in
/-- Pipelines that are published are announced. -/
theorem announces_publish {s t : Layer Tracked σ} (h : Quiet s.world t.world) (count : Nat)
    (out : Outputs) :
    Announces (objectsOf .pipeline ((out.publish t.world.wrapper count).first count)) [] s.world
      (t.publish (out.first count)).world := by
  rw [first_publish]
  exact .of_births h _ _ _ (World.events_see _ _)

theorem announces_createPipelines (r : DeviceRequest) (count : Nat) (out : Outputs)
    (s : Layer Tracked σ) :
    let u := (createPipelines r count out).run s
    Announces (if s.world.wrapper.enabled = true then objectsOf .pipeline (u.1.2.first count)
      else []) [] s.world u.2.world := by
  intro u
  have hrun : u = (createPipelines r count out).run s := rfl
  obtain ⟨t, result, written, hrelay, hquiet, -⟩ := exists_relayed r out s
  unfold createPipelines at hrun
  rw [run_bind_of hrelay] at hrun
  dsimp only at hrun
  rw [run_bind_of (run_wrapping t), hquiet.1] at hrun
  split
  · next hwraps =>
    rw [if_pos hwraps, run_bind_of (run_publishOutputs count written t), run_pure] at hrun
    rw [hrun]
    exact announces_publish hquiet count written
  · next hplain =>
    rw [if_neg hplain, run_pure] at hrun
    rw [hrun]
    exact .of_quiet hquiet

theorem announces_createRayTracingPipelines (batch : BatchId) (operation cache : Handle)
    (infos : AppArray RayTracingInfo) (out : Outputs) (s : Layer Tracked σ) :
    let r : DeviceRequest := .createRayTracingPipelines batch operation cache infos
    let u := (serve r out).run s
    Announces (if s.world.wrapper.enabled = true then r.debuts s.object.own u.1 else []) []
      s.world u.2.world := by
  intro r u
  have hquiet := quiet_sent r (some infos.count) s
  split
  · next hwraps =>
    have hborn : r.debuts s.object.own u.1 = if isDeferred u.1.1 operation = true then []
        else objectsOf .pipeline (u.1.2.first infos.count) := rfl
    rw [hborn]
    cases hdeferred : isDeferred (answer r (some infos.count) s).result operation with
    | true =>
      have hrun : u = _ := run_serve_of_isDeferred (t := s) (r := r) rfl hwraps out hdeferred
      rw [hrun]
      dsimp only
      rw [if_pos (show isDeferred (answer r r.handleCount? s).result operation = true
        from hdeferred)]
      exact .of_quiet hquiet
    | false =>
      have hrun : u = _ := @run_serve_of_not_isDeferred _ _ operation batch cache infos s hwraps
        out hdeferred
      rw [hrun]
      dsimp only
      rw [if_neg (by rw [hdeferred]; exact Bool.false_ne_true),
        ← wrapper_sent r (some infos.count) s]
      exact announces_publish hquiet _ _
  · next hplain =>
    have hrun : u = (relay r out).run s := by
      show (createRayTracingPipelines batch operation cache infos out).run s = _
      unfold createRayTracingPipelines
      rw [run_bind_of (run_wrapping s), if_neg hplain]
    rw [hrun, run_relay]
    exact .of_quiet (quiet_sent r _ s)

theorem announces_allocateSets (pool : Handle) (layouts : AppArray Handle) (out : Outputs)
    (s : Layer Tracked σ) :
    let r : DeviceRequest := .allocateSets pool layouts
    let u := (allocateSets pool layouts out).run s
    Announces (if s.world.wrapper.enabled = true then r.debuts s.object.own u.1 else []) []
      s.world u.2.world := by
  intro r u
  have hrun : u = (allocateSets pool layouts out).run s := rfl
  obtain ⟨t, result, written, hrelay, hquiet, -⟩ := exists_relayed r out s
  unfold allocateSets at hrun
  rw [run_bind_of hrelay] at hrun
  dsimp only at hrun
  rw [run_bind_of (run_wrapping t), hquiet.1] at hrun
  have hborn : r.debuts s.object.own u.1 = if u.1.1 = .success then
      objectsOf .descriptorSet (u.1.2.first layouts.count) else [] := rfl
  rw [hborn]
  by_cases hboth : s.world.wrapper.enabled = true ∧ result = .success
  · rw [if_pos hboth, run_bind_of (run_wrapNewMany _ t), run_bind_of (run_modifyOwn _ _),
      run_bind_of (run_forM_announceCreated _ _ _), run_pure] at hrun
    rw [hrun, if_pos hboth.1]
    dsimp only
    rw [if_pos hboth.2, Outputs.first_present (t.world.wrapper.length_wrapNewMany _)]
    exact .of_births hquiet _ _ _ (World.events_see _ _)
  · rw [if_neg hboth, run_pure] at hrun
    rw [hrun]
    dsimp only
    -- one of the two conditions fails, and nothing is announced
    rw [← ite_and, if_neg hboth]
    exact .of_quiet hquiet

omit [NextLayer σ] in
/-- Where a list is continued as far as `n`, the first `n` elements without the old ones are the
new ones. -/
theorem drop_take_append {known fresh : List Handle} {n : Nat}
    (h : fresh.length = n - known.length) :
    ((known ++ fresh).take n).drop known.length = fresh := by
  rw [List.drop_take, List.drop_left]
  exact List.take_of_length_le (Nat.le_of_eq h)

omit [NextLayer σ] in
/-- What stands beyond the images known before are the new ones. -/
theorem drop_shown {slots known fresh : List Handle} {count : Nat}
    (hfresh : fresh.length = ((slots.take count).drop known.length).length) :
    ((overwrite slots ((known ++ fresh).take count)).take count).drop known.length = fresh := by
  have hlength : fresh.length = (slots.take count).length - known.length := by
    rw [hfresh, List.length_drop]
  have hroom : ((known ++ fresh).take (slots.take count).length).length
      = (slots.take count).length := by
    rw [List.length_take, List.length_append]
    omega
  rw [← overwrite_take_length_take, take_overwrite hroom]
  exact drop_take_append hlength

theorem announces_getSwapchainImages (swapchain : Handle) (out : Outputs) (s : Layer Tracked σ) :
    let r : DeviceRequest := .getSwapchainImages swapchain
    let u := (getSwapchainImages swapchain out).run s
    Announces (if s.world.wrapper.enabled = true then r.debuts s.object.own u.1 else []) []
      s.world u.2.world := by
  intro r u
  have hrun : u = (getSwapchainImages swapchain out).run s := rfl
  obtain ⟨t, result, written, hrelay, hquiet, hobject⟩ := exists_relayed r out s
  unfold getSwapchainImages at hrun
  rw [run_bind_of hrelay] at hrun
  dsimp only at hrun
  have hborn : r.debuts s.object.own u.1 = if u.1.1.reports = true then objectsOf .image
      ((u.1.2.first u.1.2.count.toNat).drop (s.object.own.imagesOf swapchain).length)
        else [] := rfl
  rw [hborn]
  -- only a list is asked for surrogates; a call for the number has no room for one
  cases hslots : written.slots with
  | none =>
    rw [hslots] at hrun
    dsimp only at hrun
    rw [run_pure] at hrun
    rw [hrun]
    dsimp only
    rw [Outputs.first_of_null hslots, List.drop_nil, objectsOf_nil, ite_self, ite_self]
    exact .of_quiet hquiet
  | some slots =>
    rw [hslots] at hrun
    dsimp only at hrun
    rw [run_bind_of (run_wrapping t), hquiet.1] at hrun
    by_cases hboth : s.world.wrapper.enabled = true ∧ result.reports = true
    · rw [if_pos hboth, run_bind_of (run_getOwn t), run_bind_of (run_wrapNewMany _ t),
        run_bind_of (run_modifyOwn _ _), run_bind_of (run_forM_announceCreated _ _ _),
        run_pure, hobject] at hrun
      rw [hrun, if_pos hboth.1]
      dsimp only [Outputs.first]
      rw [if_pos hboth.2, Option.getD_some, drop_shown (t.world.wrapper.length_wrapNewMany _)]
      exact .of_births hquiet _ _ _ (World.events_see _ _)
    · rw [if_neg hboth, run_pure] at hrun
      rw [hrun]
      dsimp only
      rw [← ite_and, if_neg hboth]
      exact .of_quiet hquiet

theorem announces_destroyObject (kind : Destroyable) (h : Handle) (s : Layer Tracked σ) :
    Announces [] (objectsOf kind.objectType [h]) s.world
      ((destroyObject kind h).run s).2.world := by
  unfold destroyObject
  rw [run_bind_of (run_send _ none s), run_bind_of (run_eraseHandle h _), run_announceDestroyed]
  exact (Announces.of_quiet (quiet_sent _ none s)).of_deaths _ _ _ (World.events_see _ _)

omit [NextLayer σ] in
theorem announces_dropSets (sets : List Handle) (s : Layer Tracked σ) :
    Announces [] (objectsOf .descriptorSet sets) s.world ((dropSets sets).run s).2.world := by
  rw [run_dropSets]
  exact (Announces.of_quiet (.refl s.world)).of_deaths _ _ _ (World.events_see _ _)

theorem announces_destroy (kind : Destroyable) (h : Handle) (wraps : Bool) (result : Result)
    (s : Layer Tracked σ) :
    Announces [] ((DeviceRequest.destroy kind h).departures s.object.own wraps result) s.world
      ((destroy kind h).run s).2.world := by
  cases kind with
  | descriptorPool =>
    show Announces [] _ s.world ((destroyDescriptorPool h).run s).2.world
    unfold destroyDescriptorPool
    rw [run_bind_of (run_getOwn s), run_bind_of (run_modifyOwn _ s), run_bind]
    exact (announces_dropSets _ (s.withOwn (s.object.own.forgetPool h))).trans
      (announces_destroyObject .descriptorPool h _)
  | swapchain =>
    show Announces [] _ s.world ((destroySwapchain h).run s).2.world
    unfold destroySwapchain
    rw [run_bind_of (run_getOwn s), run_bind_of (run_modifyOwn _ s),
      run_bind_of (run_send _ none _), run_bind_of (run_eraseHandle _ _),
      run_bind_of (run_forM_eraseHandle _ _), run_bind_of (run_forM_announceDestroyed _ _ _),
      run_announceDestroyed]
    show Announces [] (objectsOf .image (s.object.own.imagesOf h) ++ objectsOf .swapchain [h]) _ _
    refine Announces.of_deaths ?_ _ _ _ (World.events_see _ _)
    exact (Announces.of_quiet (quiet_sent (.destroy .swapchain h) none
      (s.withOwn (s.object.own.forgetSwapchain h)))).of_deaths _ _ _ (World.events_see _ _)
  | _ => exact announces_destroyObject _ h s

theorem announces_releaseConfiguration (h : Handle) (wraps : Bool) (out : Outputs)
    (s : Layer Tracked σ) :
    let r : DeviceRequest := .releaseConfiguration h
    let u := (releaseConfiguration h out).run s
    Announces [] (r.departures s.object.own wraps u.1.1) s.world u.2.world := by
  intro r u
  have hrun : u = (releaseConfiguration h out).run s := rfl
  obtain ⟨t, result, written, hrelay, hquiet, -⟩ := exists_relayed r out s
  unfold releaseConfiguration at hrun
  rw [run_bind_of hrelay] at hrun
  dsimp only at hrun
  unfold DeviceRequest.departures
  dsimp only [r]
  by_cases hsuccess : result = .success
  · rw [if_pos hsuccess, run_bind_of (run_eraseHandle h t),
      run_bind_of (run_announceDestroyed _ _ _), run_pure] at hrun
    rw [hrun]
    dsimp only
    rw [if_pos hsuccess]
    exact (Announces.of_quiet hquiet).of_deaths _ _ _ (World.events_see _ _)
  · rw [if_neg hsuccess, run_pure] at hrun
    rw [hrun]
    dsimp only
    rw [if_neg hsuccess]
    exact .of_quiet hquiet

theorem announces_resetDescriptorPool (pool : Handle) (flags : UInt32) (wraps : Bool)
    (out : Outputs) (s : Layer Tracked σ) :
    let r : DeviceRequest := .resetDescriptorPool pool flags
    let u := (resetDescriptorPool pool flags out).run s
    Announces [] (r.departures s.object.own wraps u.1.1) s.world u.2.world := by
  intro r u
  have hrun : u = (resetDescriptorPool pool flags out).run s := rfl
  obtain ⟨t, result, written, hrelay, hquiet, hobject⟩ := exists_relayed r out s
  unfold resetDescriptorPool at hrun
  rw [run_bind_of hrelay] at hrun
  dsimp only at hrun
  unfold DeviceRequest.departures
  dsimp only [r]
  by_cases hsuccess : result = .success
  · rw [if_pos hsuccess, run_bind_of (run_getOwn t), run_bind_of (run_modifyOwn _ t), run_bind,
      run_pure] at hrun
    rw [hrun]
    dsimp only
    rw [if_pos hsuccess, ← hobject]
    exact (Announces.of_quiet hquiet).trans (announces_dropSets _ (t.withOwn _))
  · rw [if_neg hsuccess, run_pure] at hrun
    rw [hrun]
    dsimp only
    rw [if_neg hsuccess]
    exact .of_quiet hquiet

theorem announces_freeSets (pool : Handle) (sets : AppArray Handle) (out : Outputs)
    (s : Layer Tracked σ) :
    let r : DeviceRequest := .freeSets pool sets
    let u := (freeSets pool sets out).run s
    Announces [] (r.departures s.object.own s.world.wrapper.enabled u.1.1) s.world u.2.world := by
  intro r u
  have hrun : u = (freeSets pool sets out).run s := rfl
  obtain ⟨t, result, written, hrelay, hquiet, -⟩ := exists_relayed r out s
  unfold freeSets at hrun
  rw [run_bind_of hrelay] at hrun
  dsimp only at hrun
  rw [run_bind_of (run_wrapping t), hquiet.1] at hrun
  unfold DeviceRequest.departures
  dsimp only [r]
  by_cases hboth : s.world.wrapper.enabled = true ∧ result = .success
  · rw [if_pos hboth, run_bind_of (run_modifyOwn _ t), run_bind, run_pure] at hrun
    rw [hrun]
    dsimp only
    rw [if_pos hboth]
    exact (Announces.of_quiet hquiet).trans (announces_dropSets _ (t.withOwn _))
  · rw [if_neg hboth, run_pure] at hrun
    rw [hrun]
    dsimp only
    rw [if_neg hboth]
    exact .of_quiet hquiet

theorem quiet_buildStructures (operation : Handle) (infos : AppArray BuildInfo)
    (ranges : Option (List (List BuildRange))) (out : Outputs) (s : Layer Tracked σ) :
    Quiet s.world ((buildStructures operation infos ranges out).run s).2.world := by
  unfold buildStructures
  rw [run_bind_of (run_send _ _ s), run_bind_of (run_wrapping _)]
  split
  · exact quiet_sent _ _ s
  · exact quiet_sent _ _ s

/-- **What the part of a call announces that can be skipped.** -/
theorem announces_serve {r : DeviceRequest} (hr : r.awaits? = none) (out : Outputs)
    (s : Layer Tracked σ) :
    let u := (serve r out).run s
    Announces (r.welcomed s.world.wrapper.enabled s.object.own u.1)
      (r.departures s.object.own s.world.wrapper.enabled u.1.1) s.world u.2.world := by
  intro u
  -- what announces no creation, whether handles are wrapped or not
  have hgone : ∀ {gone : List (ObjectType × Handle)}, r.debuts s.object.own u.1 = [] →
      Announces [] gone s.world u.2.world →
      Announces (r.welcomed s.world.wrapper.enabled s.object.own u.1) gone s.world u.2.world :=
    fun hborn h => by
      rw [DeviceRequest.welcomed, hborn, ite_self]
      exact h
  -- what announces creations only if handles are wrapped
  have hborn : r.createsOne = false →
      Announces (if s.world.wrapper.enabled = true then r.debuts s.object.own u.1 else []) []
        s.world u.2.world →
      Announces (r.welcomed s.world.wrapper.enabled s.object.own u.1) [] s.world u.2.world :=
    fun hone h => by
      simp only [DeviceRequest.welcomed, hone, Bool.false_eq_true, or_false]
      exact h
  have hrelay : serve r out = (relay r out : DeviceM σ _) → Announces [] [] s.world u.2.world :=
    fun hserve => by
      have hrun : u = (relay r out).run s := congrArg (StateT.run · s) hserve
      rw [hrun, run_relay]
      exact .of_quiet (quiet_sent r _ s)
  cases r with
  | create info =>
    rw [DeviceRequest.welcomed, if_pos (.inr rfl)]
    exact announces_createObject info out s
  | destroy kind h => exact hgone rfl (announces_destroy kind h _ _ s)
  | releaseConfiguration h => exact hgone rfl (announces_releaseConfiguration h _ out s)
  | resetDescriptorPool pool flags =>
    exact hgone rfl (announces_resetDescriptorPool pool flags _ out s)
  | allocateSets pool layouts => exact hborn rfl (announces_allocateSets pool layouts out s)
  | freeSets pool sets => exact hgone rfl (announces_freeSets pool sets out s)
  | createGraphicsPipelines cache infos =>
    exact hborn rfl
      (announces_createPipelines (.createGraphicsPipelines cache infos) infos.count out s)
  | createComputePipelines cache infos =>
    exact hborn rfl
      (announces_createPipelines (.createComputePipelines cache infos) infos.count out s)
  | createRayTracingPipelines batch operation cache infos =>
    exact hborn rfl (announces_createRayTracingPipelines batch operation cache infos out s)
  | getSwapchainImages swapchain =>
    exact hborn rfl (announces_getSwapchainImages swapchain out s)
  | allocateCommandBuffers pool level count =>
    refine hgone rfl ?_
    show Announces [] [] s.world ((allocateCommandBuffers pool level count out).run s).2.world
    unfold allocateCommandBuffers
    rw [run_bind_of (run_relay _ out s)]
    dsimp only
    split
    · exact .of_quiet (quiet_sent _ _ s)
    · exact .of_quiet (quiet_sent _ _ s)
  | freeCommandBuffers pool buffers =>
    refine hgone rfl (.of_quiet ?_)
    show Quiet s.world ((silently (freeCommandBuffers pool buffers) out).run s).2.world
    unfold silently freeCommandBuffers
    rw [run_bind, run_bind_of (run_send _ none s)]
    exact quiet_sent _ none s
  | buildStructures operation infos ranges =>
    exact hgone rfl (.of_quiet (quiet_buildStructures operation infos ranges out s))
  | joinOperation operation => cases hr
  | queryOperation operation => cases hr
  | _ => exact hgone rfl (hrelay rfl)

omit [NextLayer σ] in
/-- What goes before the validation objects are asked is no child of anything. -/
theorem departures_prepared (r : DeviceRequest) (t : Tracked) (wraps : Bool) (result : Result) :
    r.departures (t.prepared r) wraps result = r.departures t wraps result := by
  cases r with
  | destroy kind h => cases kind <;> rfl
  | _ => rfl

omit [NextLayer σ] in
theorem welcomed_prepared (r : DeviceRequest) (wraps : Bool) (t : Tracked) (o : Outcome) :
    r.welcomed wraps (t.prepared r) o = r.welcomed wraps t o := by
  cases r <;> rfl

/-- A call that is skipped announces nothing. -/
theorem quiet_perform_of_vetoes {r : DeviceRequest} {s : Layer Tracked σ}
    (hveto : s.object.registry.chain.vetoes s.world.behaviour r.command = true) (out : Outputs) :
    Quiet s.world ((perform r out).run s).2.world := by
  rw [run_perform_of_vetoes hveto]
  exact .see ((silent_of_isAside (all_isAside_lost _ r)).append (silent_toldEach _ _)) s.world

/-- A call that is not skipped announces what the part of it does that can be skipped. -/
theorem exists_served {r : DeviceRequest} {s : Layer Tracked σ}
    (hveto : s.object.registry.chain.vetoes s.world.behaviour r.command = false) (out : Outputs) :
    ∃ t : Layer Tracked σ, Quiet s.world t.world ∧ t.object.own = s.object.own.prepared r ∧
      ((perform r out).run s).1 = ((serve r out).run t).1 ∧
      Quiet ((serve r out).run t).2.world ((perform r out).run s).2.world := by
  let t := (s.withOwn (s.object.own.prepared r)).see (s.object.own.lost r ++ opening r s)
  let u := (serve r out).run t
  obtain ⟨own, memory, hconclude⟩ :=
    exists_concluded r u.1.1 u.1.2 (u.2.see (closing r u.1.1 s))
  have hrun : (perform r out).run s
      = (u.1, ((u.2.see (closing r u.1.1 s)).withOwn own).withMemory memory) := by
    have hperform : (perform r out).run s
        = (u.1, ((conclude r u.1.1 u.1.2).run (u.2.see (closing r u.1.1 s))).2) :=
      run_perform hveto
    rw [hperform, hconclude]
  -- what is seen before and after the part that can be skipped is silent
  refine ⟨t, .see ?_ s.world, rfl, ?_, ?_⟩
  · exact (silent_of_isAside (all_isAside_lost _ r)).append (silent_toldBefore _ _)
  · rw [hrun]
  · rw [hrun]
    exact .see (silent_toldEach _ _) u.2.world

/-- **What a call announces**, unless it is skipped or asks for the result of an operation. -/
theorem announces_perform {r : DeviceRequest} {s : Layer Tracked σ} (hr : r.awaits? = none)
    (hveto : s.object.registry.chain.vetoes s.world.behaviour r.command = false) (out : Outputs) :
    let u := (perform r out).run s
    Announces (r.welcomed s.world.wrapper.enabled s.object.own u.1)
      (r.departures s.object.own s.world.wrapper.enabled u.1.1) s.world u.2.world := by
  intro u
  obtain ⟨t, hbefore, hown, houtcome, hafter⟩ := exists_served hveto out
  have hserve := announces_serve hr out t
  dsimp only at hserve
  rw [hown, hbefore.1, welcomed_prepared, departures_prepared, ← houtcome] at hserve
  exact (hserve.before hbefore).after hafter

end Device

/-! ### Calls to an instance -/

/-- The objects that a call to an instance does away with. -/
def InstanceRequest.departures : InstanceRequest → List (ObjectType × Handle)
  | destroySurface surface => objectsOf .surface [surface]
  | _ => []

theorem InstanceRequest.exists_of_mem_departures {r : InstanceRequest} {p : ObjectType × Handle}
    (hp : p ∈ r.departures) :
    ∃ surface, r = .destroySurface surface ∧ p = (.surface, surface) ∧ surface ≠ 0 := by
  cases r with
  | destroySurface surface =>
    obtain ⟨htype, hh, hzero⟩ := mem_objectsOf.1 hp
    obtain rfl := List.mem_singleton.1 hh
    exact ⟨p.2, rfl, Prod.ext htype rfl, hzero⟩
  | _ => cases hp

namespace Instance

variable [NextLayer σ]

/-- What the part of a call announces that can be skipped. -/
theorem announces_serve (r : InstanceRequest) (out : Outputs) (s : Layer Settings σ) :
    Announces [] r.departures s.world ((serve r out).run s).2.world := by
  cases r with
  | destroySurface surface =>
    rw [run_destroySurface]
    exact (Announces.of_quiet (quiet_ask s _ none)).of_deaths _ _ _ (World.events_see _ _)
  | displays query physicalDevice | modes query physicalDevice display =>
    -- what is reported is shown, and not announced
    show Announces [] [] s.world _
    exact rel_reportHandles _ (fun _ _ _ => ⟨[], (List.append_nil _).symm, rfl, rfl⟩) out
  | tools query physicalDevice room =>
    exact .of_quiet (quiet_reportTools query physicalDevice out s)
  | _ => exact .of_quiet (quiet_relay _ out s)

/-- **What a call to an instance announces.** -/
theorem announces_perform (r : InstanceRequest) (out : Outputs) (s : Layer Settings σ) :
    Announces [] (if s.object.registry.chain.vetoes s.world.behaviour r.command = true then []
      else r.departures) s.world ((perform r out).run s).2.world := by
  split
  · next hveto =>
    rw [run_perform_of_vetoes hveto]
    exact .of_quiet (.see (silent_toldEach _ _) s.world)
  · next hveto =>
    unfold perform
    rw [run_intercept (Bool.eq_false_iff.2 hveto)]
    let objects := s.object.registry.chain.intercepting r.command
    have hserve := announces_serve r out (s.see (toldBefore objects r.command))
    refine Announces.after (Announces.before hserve ?_) ?_
    · exact .see (silent_toldBefore _ _) s.world
    · exact .see (silent_toldEach _ _) _

end Instance

end HandleLayer
