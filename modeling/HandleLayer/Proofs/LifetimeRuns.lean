import HandleLayer.Proofs.Lifetimes
import HandleLayer.Scripted
import HandleLayer.System

/-!
# Lifetimes along runs

Whatever happens to a system, its surrogates were drawn one after the other, and every
announcement of a creation belongs to a draw of its own.  So the announcements of a call
mirror what it does to the surrogate map, and no handle is announced as created twice.

## Main definitions

* `World.Sound`, `System.Sound` — the invariant of what is shared, and of whole systems.
* `Mirrors` — what the announcements of a call have to do with the surrogates.

## Main results

* `System.sound_run` — the invariant holds whatever happens.
* `lifetimes_mirror_surrogates` — **announcements mirror the surrogate map.**
-/

namespace HandleLayer

variable {σ α : Type}

/-! ### Reporting without announcements -/

/-- More surrogates live, and nothing is announced. -/
def Reports (w w' : World σ) : Prop :=
  w.wrapper.Fares [] w'.wrapper ∧ ∃ es, w'.events = w.events ++ es ∧ Silent es

theorem Quiet.reports {w w' : World σ} (h : Quiet w w') : Reports w w' := by
  obtain ⟨hwrapper, hevents⟩ := h
  refine ⟨?_, hevents⟩
  rw [hwrapper]
  exact .refl _

instance : Composable (Reports (σ := σ)) where
  of_quiet := Quiet.reports
  trans := by
    rintro w w' w'' ⟨hfares, es, hevents, hes⟩ ⟨hfares', es', hevents', hes'⟩
    exact ⟨hfares.trans hfares', es ++ es', append_events hevents hevents', hes.append hes'⟩

/-! ### Calls to an instance -/

namespace Instance

variable {R : World σ → World σ → Prop} [Composable R]

/-- Asking and telling validation objects announces nothing. -/
theorem rel_see {δ : Type} {es : List Event} (hes : Silent es) (s : Layer δ σ) :
    R s.world (s.see es).world :=
  Composable.of_quiet ⟨rfl, es, World.events_see es s.world, hes⟩

/-- A call does no more than the part of it that can be skipped. -/
theorem rel_intercept {δ : Type} {command : Command} {skipped : α}
    {body : CallM δ σ (Result × α)} {s : Layer δ σ}
    (hbody : ∀ s' : Layer δ σ, s'.world.wrapper = s.world.wrapper →
      R s'.world (body.run s').2.world) :
    R s.world ((intercept command skipped body).run s).2.world := by
  cases hveto : s.object.registry.chain.vetoes s.world.behaviour command with
  | true =>
    rw [run_intercept_of_vetoes hveto]
    exact rel_see (silent_toldEach _ _) s
  | false =>
    rw [run_intercept hveto]
    refine Composable.trans (rel_see ?_ s) (Composable.trans (hbody _ rfl) (rel_see ?_ _))
    · exact silent_toldBefore _ _
    · exact silent_toldEach _ _

variable [NextLayer σ]

theorem quiet_relay (r : InstanceRequest) (out : Outputs) (s : Layer Settings σ) :
    Quiet s.world ((relay r out).run s).2.world := by
  have hrun : ((relay r out).run s).2
      = ((forward (.ofInstance (r.resolve s.world.wrapper))
          (out.slots.map List.length)).run s).2 := rfl
  rw [hrun, run_forward]
  exact quiet_ask s _ _

/-- A surface is removed and announced once the next layer was called. -/
theorem run_destroySurface (surface : Handle) (out : Outputs) (s : Layer Settings σ) :
    let t := s.ask
      (.ofInstance ((InstanceRequest.destroySurface surface).resolve s.world.wrapper)) none
    ((serve (.destroySurface surface) out).run s).2
      = (t.withWrapper (t.world.wrapper.erase surface)).see
          (deaths t.object.registry.chain.objects .surface [surface]) := by
  have hrun : ((serve (.destroySurface surface) out).run s).2
      = ((do
          let _ ← forward
            (.ofInstance ((InstanceRequest.destroySurface surface).resolve s.world.wrapper)) none
          eraseHandle surface
          announceDestroyed .surface surface : InstanceM σ Unit).run s).2 := rfl
  rw [hrun, run_bind_of (run_forward _ _ s), run_bind_of (run_eraseHandle _ _),
    run_announceDestroyed]
  rfl

/-- A surface that is destroyed is removed and announced. -/
theorem deaths_destroySurface {s : Layer Settings σ} (hs : s.world.wrapper.enabled = true)
    (surface : Handle) (out : Outputs) :
    Deaths [(.surface, surface)] s.world
      ((serve (.destroySurface surface) out).run s).2.world := by
  rw [run_destroySurface]
  have hasked := quiet_ask s
    (.ofInstance ((InstanceRequest.destroySurface surface).resolve s.world.wrapper)) none
  refine hasked.deaths.trans (deaths_eraseMany ?_ [surface] (createdIn_deaths _ _ _)
    (fun _ => mem_map_destroyedIn_deaths) fun p hp => ?_)
  · rw [hasked.1, hs]
  · obtain ⟨htype, hp, -⟩ := mem_destroyedIn_deaths.1 hp
    obtain ⟨type, h⟩ := p
    obtain rfl := htype
    obtain rfl := List.mem_singleton.1 hp
    exact .inl List.mem_cons_self

/-- A query that reports handles does no more than giving them surrogates. -/
theorem rel_reportHandles {s : Layer Settings σ} (r : InstanceRequest)
    {wrap : List Handle → InstanceM σ (List Handle)}
    (hwrap : ∀ (reals : List Handle) (t : Layer Settings σ),
      t.world.wrapper = s.world.wrapper → R t.world ((wrap reals).run t).2.world)
    (out : Outputs) : R s.world ((reportHandles r wrap out).run s).2.world := by
  have hrelay := quiet_relay r out s
  unfold reportHandles
  rcases hrun : (relay r out).run s with ⟨⟨result, out⟩, t⟩
  rw [hrun] at hrelay
  rw [run_bind_of hrun]
  dsimp only
  cases out.slots with
  | none => exact Composable.of_quiet hrelay
  | some slots =>
    dsimp only
    split
    · exact Composable.trans (Composable.of_quiet hrelay) (hwrap _ t hrelay.1)
    · exact Composable.of_quiet hrelay

omit [NextLayer σ] in
theorem reports_wrapNewMany (reals : List Handle) {s : Layer Settings σ}
    (hs : s.world.wrapper.enabled = true) :
    Reports s.world ((wrapNewMany reals : InstanceM σ (List Handle)).run s).2.world :=
  ⟨Wrapper.Fares.wrapNewMany hs reals, [], (List.append_nil _).symm, silent_nil⟩

omit [NextLayer σ] in
theorem reports_wrapDisplayMany (reals : List Handle) (s : Layer Settings σ) :
    Reports s.world ((wrapDisplayMany reals : InstanceM σ (List Handle)).run s).2.world :=
  ⟨Wrapper.Fares.wrapDisplayMany _ reals, [], (List.append_nil _).symm, silent_nil⟩

theorem quiet_reportTools (query : ToolQuery) (physicalDevice : Handle) (out : Outputs)
    (s : Layer Settings σ) :
    Quiet s.world ((reportTools query physicalDevice out).run s).2.world := by
  unfold reportTools
  split
  · unfold countTools
    rw [run_bind_of (run_forward _ _ s)]
    split
    · exact quiet_ask s _ _
    · split
      · exact quiet_ask s _ _
      · exact quiet_ask s _ _
  · exact .refl s.world
  · unfold listTools
    dsimp only
    rw [run_bind_of (run_forward _ _ s)]
    split
    · exact quiet_ask s _ _
    · split
      · exact quiet_ask s _ _
      · exact quiet_ask s _ _

theorem deaths_perform {s : Layer Settings σ} (hs : s.world.wrapper.enabled = true)
    (surface : Handle) (out : Outputs) :
    Deaths [(.surface, surface)] s.world
      ((perform (.destroySurface surface) out).run s).2.world :=
  rel_intercept fun _ hs' => deaths_destroySurface (by rw [hs', hs]) surface out

/-- A call to an instance that destroys no surface reports. -/
theorem reports_perform {s : Layer Settings σ} (hs : s.world.wrapper.enabled = true)
    {r : InstanceRequest} (hr : ∀ surface, r ≠ .destroySurface surface) (out : Outputs) :
    Reports s.world ((perform r out).run s).2.world := by
  cases r with
  | destroySurface surface => exact absurd rfl (hr surface)
  | displays =>
    exact rel_intercept fun s' _ => rel_reportHandles _
      (fun reals t _ => reports_wrapDisplayMany reals t) out
  | modes =>
    exact rel_intercept fun s' hs' => rel_reportHandles _
      (fun reals t ht => reports_wrapNewMany reals (by rw [ht, hs', hs])) out
  | tools query physicalDevice room =>
    exact rel_intercept fun s' _ => (quiet_reportTools query physicalDevice out s').reports
  | _ => exact rel_intercept fun s' _ => (quiet_relay _ out s').reports

/-- A call to an instance destroys a surface or reports. -/
theorem deaths_or_reports_perform {s : Layer Settings σ}
    (hs : s.world.wrapper.enabled = true) (r : InstanceRequest) (out : Outputs) :
    (∃ surface, Deaths [(.surface, surface)] s.world ((perform r out).run s).2.world) ∨
      Reports s.world ((perform r out).run s).2.world := by
  by_cases hr : ∃ surface, r = .destroySurface surface
  · obtain ⟨surface, rfl⟩ := hr
    exact .inl ⟨surface, deaths_perform hs surface out⟩
  · exact .inr (reports_perform hs (fun surface heq => hr ⟨surface, heq⟩) out)

/-- In front of a new device nothing is tracked yet. -/
theorem run_startDevice (physicalDevice device : Handle) (table : EntryTable)
    (objects : List ValidationObject) (s : Layer Settings σ) :
    ((startDevice physicalDevice device table objects).run s).1.own = .empty ∧
      Quiet s.world ((startDevice physicalDevice device table objects).run s).2.world := by
  unfold startDevice
  rw [run_bind_of (run_forward _ _ s)]
  refine ⟨rfl, (quiet_ask s (.ofInstance (.physicalDeviceProperties physicalDevice))
    none).trans (.see ?_ _)⟩
  exact silent_map (fun _ => rfl) (fun _ => rfl) _

end Instance

/-! ### The invariant -/

/-- Handles are wrapped, every surrogate was drawn, and the announcements of creations
belong to draws of their own, in order. -/
structure World.Sound (w : World σ) : Prop where
  wrapping : w.wrapper.enabled = true
  drawn : ∀ h, w.Live h → w.wrapper.map.Drawn h
  created : ∃ ps : List (ObjectType × Nat),
    createdIn w.events = ps.map (fun p => (p.1, idAt p.2)) ∧
      (ps.map Prod.snd).Pairwise (· < ·) ∧ ∀ p ∈ ps, p.2 < w.wrapper.map.drawn

namespace World.Sound

variable {type : ObjectType} {named : List (ObjectType × Handle)} {w w' : World σ}

theorem of_births (hw : w.Sound) (h : Births type w w') : w'.Sound := by
  obtain ⟨es, ns, h⟩ := h
  refine ⟨h.enabled_eq.trans hw.wrapping, fun k hk => ?_, ?_⟩
  · rcases (h.live k).1 hk with hold | ⟨n, hn, heq⟩
    · obtain ⟨n, hn, heq⟩ := hw.drawn k hold
      exact ⟨n, Nat.lt_of_lt_of_le hn h.drawn_le, heq⟩
    · exact ⟨n, (h.drawn n hn).2, heq⟩
  · -- the new draws come after all that were announced before
    obtain ⟨ps, hcreated, hsorted, hbound⟩ := hw.created
    refine ⟨ps ++ ns.map (type, ·), ?_, ?_, fun p hp => ?_⟩
    · rw [h.events_eq, createdIn_append, hcreated, h.created, List.map_append, List.map_map]
      rfl
    · rw [List.map_append, List.map_map]
      refine List.pairwise_append.2 ⟨hsorted, ?_, fun n hn n' hn' => ?_⟩
      · exact List.pairwise_map.2 h.sorted
      · obtain ⟨p, hp, rfl⟩ := List.mem_map.1 hn
        obtain ⟨n', hmem, rfl⟩ := List.mem_map.1 hn'
        exact Nat.lt_of_lt_of_le (hbound p hp) (h.drawn n' hmem).1
    · rcases List.mem_append.1 hp with hp | hp
      · exact Nat.lt_of_lt_of_le (hbound p hp) h.drawn_le
      · obtain ⟨n, hn, rfl⟩ := List.mem_map.1 hp
        exact (h.drawn n hn).2

/-- The invariant stays as long as nothing is announced as created. -/
theorem of_fares (hw : w.Sound) {lost : List Handle} (hfares : w.wrapper.Fares lost w'.wrapper)
    (hcreated : createdIn w'.events = createdIn w.events) : w'.Sound := by
  refine ⟨hfares.enabled_eq.trans hw.wrapping, fun k hk => ?_, ?_⟩
  · rcases hfares.new k hk with hold | ⟨n, -, hn, heq⟩
    · obtain ⟨n, hn, heq⟩ := hw.drawn k hold
      exact ⟨n, Nat.lt_of_lt_of_le hn hfares.drawn_le, heq⟩
    · exact ⟨n, hn, heq⟩
  · obtain ⟨ps, hps, hsorted, hbound⟩ := hw.created
    exact ⟨ps, hcreated.trans hps, hsorted, fun p hp =>
      Nat.lt_of_lt_of_le (hbound p hp) hfares.drawn_le⟩

theorem of_deaths (hw : w.Sound) (h : Deaths named w w') : w'.Sound := by
  obtain ⟨es, h⟩ := h
  have hfares : w.wrapper.Fares ((destroyedIn es).map Prod.snd) w'.wrapper :=
    ⟨h.enabled_eq, Nat.le_of_eq h.drawn_eq.symm, fun k hk => .inl ((h.live k).1 hk).1,
      fun k hk hstays => (h.live k).2 ⟨hk, hstays⟩⟩
  refine hw.of_fares hfares ?_
  rw [h.events_eq, createdIn_append, h.created, List.append_nil]

theorem of_reports (hw : w.Sound) (h : Reports w w') : w'.Sound := by
  obtain ⟨hfares, es, hevents, hes⟩ := h
  refine hw.of_fares hfares ?_
  rw [hevents, createdIn_append, hes.1, List.append_nil]

theorem of_turn (hw : w.Sound) {type? : Option ObjectType} (h : Turn type? named w w') :
    w'.Sound := by
  cases type? with
  | none => exact hw.of_deaths h
  | some type => exact hw.of_births h

/-- **No handle is announced as created twice**, unless the counter comes round. -/
theorem nodup (hw : w.Sound) (hlt : w.wrapper.map.drawn < drawLimit) :
    ((createdIn w.events).map Prod.snd).Nodup := by
  obtain ⟨ps, hcreated, hsorted, hbound⟩ := hw.created
  have hids : (createdIn w.events).map Prod.snd = (ps.map Prod.snd).map idAt := by
    rw [hcreated, List.map_map, List.map_map]
    rfl
  rw [hids]
  refine nodup_map_idAt (hsorted.imp fun hab => Nat.ne_of_lt hab) fun n hn => ?_
  obtain ⟨p, hp, rfl⟩ := List.mem_map.1 hn
  exact Nat.lt_trans (hbound p hp) hlt

end World.Sound

/-- Handles are wrapped as before, and more was seen. -/
def World.Extends (w w' : World σ) : Prop :=
  w'.wrapper.enabled = w.wrapper.enabled ∧ ∃ es, w'.events = w.events ++ es

theorem Turn.extends {type? : Option ObjectType} {named : List (ObjectType × Handle)}
    {w w' : World σ} (h : Turn type? named w w') : w.Extends w' := by
  cases type? with
  | none =>
    obtain ⟨es, h⟩ := h
    exact ⟨h.enabled_eq, es, h.events_eq⟩
  | some type =>
    obtain ⟨es, ns, h⟩ := h
    exact ⟨h.enabled_eq, es, h.events_eq⟩

theorem Turn.drawn_le {type? : Option ObjectType} {named : List (ObjectType × Handle)}
    {w w' : World σ} (h : Turn type? named w w') : w.wrapper.map.drawn ≤ w'.wrapper.map.drawn := by
  cases type? with
  | none =>
    obtain ⟨es, h⟩ := h
    exact Nat.le_of_eq h.drawn_eq.symm
  | some type =>
    obtain ⟨es, ns, h⟩ := h
    exact h.drawn_le

theorem Reports.extends {w w' : World σ} (h : Reports w w') : w.Extends w' := by
  obtain ⟨hfares, es, hevents, -⟩ := h
  exact ⟨hfares.enabled_eq, es, hevents⟩

namespace System

/-- What is shared is sound, and every device knows its children. -/
structure Sound (s : System σ) : Prop where
  world : s.world.Sound
  known : ∀ d ∈ s.devices, Layer.Known ⟨d, s.world⟩

/-- Devices that keep what they track go on knowing their children. -/
theorem Sound.move {s s' : System σ} (hs : s.Sound) (hworld : s'.world.Sound)
    (hextends : s.world.Extends s'.world)
    (hdevices : ∀ d' ∈ s'.devices,
      (∃ d ∈ s.devices, d'.own = d.own) ∨ Layer.Known ⟨d', s'.world⟩) : s'.Sound := by
  refine ⟨hworld, fun d' hd' => ?_⟩
  rcases hdevices d' hd' with ⟨d, hd, hown⟩ | hknown
  · obtain ⟨henabled, hevents⟩ := hextends
    refine (hs.known d hd).of_grows henabled hevents (fun pool h hh => ?_) fun _ h hh => ?_
    · rwa [hown] at hh
    · rwa [hown] at hh
  · exact hknown

/-- Nothing but registries and the next layer have changed. -/
theorem Sound.of_same {s s' : System σ} (hs : s.Sound)
    (hwrapper : s'.world.wrapper = s.world.wrapper)
    (htrace : s'.world.trace = s.world.trace)
    (hdevices : ∀ d' ∈ s'.devices, ∃ d ∈ s.devices, d'.own = d.own) : s'.Sound := by
  have hevents : s'.world.events = s.world.events := congrArg Array.toList htrace
  have hquiet : Quiet s.world s'.world :=
    ⟨hwrapper, [], by rw [hevents, List.append_nil], silent_nil⟩
  exact hs.move (hs.world.of_reports hquiet.reports) hquiet.reports.extends
    fun d' hd' => .inl (hdevices d' hd')

theorem exists_of_mem_modify {d' : Dispatch Tracked} {ds : List (Dispatch Tracked)} {k : Nat}
    {f : Dispatch Tracked → Dispatch Tracked} (hf : ∀ d, (f d).own = d.own)
    (h : d' ∈ ds.modify k f) : ∃ d ∈ ds, d'.own = d.own := by
  obtain ⟨i, hi⟩ := List.mem_iff_getElem?.1 h
  rw [List.getElem?_modify] at hi
  obtain ⟨d, hd, heq⟩ := Option.map_eq_some_iff.1 hi
  refine ⟨d, List.mem_of_getElem? hd, ?_⟩
  rw [← heq]
  split
  · exact hf d
  · rfl

theorem Sound.modifyRegistry {s : System σ} (hs : s.Sound) (device : Option Nat)
    (f : Behaviour → Registry → Registry) : (s.modifyRegistry device f).Sound := by
  cases device with
  | none => exact hs.of_same rfl rfl fun d hd => ⟨d, hd, rfl⟩
  | some k =>
    refine hs.of_same rfl rfl fun d' hd' => ?_
    exact exists_of_mem_modify
      (f := fun d => { d with registry := f s.world.behaviour d.registry }) (fun _ => rfl) hd'

variable [NextLayer σ]

theorem Sound.callInstance {s : System σ} (hs : s.Sound) (r : InstanceRequest)
    (out : Outputs) : (s.act (.callInstance r out)).Sound := by
  have hcall := Instance.deaths_or_reports_perform (s := ⟨s.host, s.world⟩)
    hs.world.wrapping r out
  have hdevices : ∀ d' ∈ (s.act (.callInstance r out)).devices,
      ∃ d ∈ s.devices, d'.own = d.own := fun d hd => ⟨d, hd, rfl⟩
  rcases hcall with ⟨surface, hdeaths⟩ | hreports
  · have hturn : Turn none [(.surface, surface)] s.world _ := hdeaths
    exact hs.move (hs.world.of_deaths hdeaths) hturn.extends fun d hd => .inl (hdevices d hd)
  · exact hs.move (hs.world.of_reports hreports) hreports.extends
      fun d hd => .inl (hdevices d hd)

/-- A call to a device, whether there is one with this number or not. -/
theorem turn_callDevice {s : System σ} (hs : s.Sound) (k : Nat) (r : DeviceRequest)
    (out : Outputs) :
    Turn r.creates? r.named s.world (s.act (.callDevice k r out)).world := by
  rw [act_callDevice]
  unfold onDevice
  cases hdevice : s.devices[k]? with
  | none => exact Composable.of_quiet (.refl s.world)
  | some d =>
    exact (Device.keeps_perform r out ⟨d, s.world⟩
      (hs.known d (List.mem_of_getElem? hdevice))).2

theorem Sound.callDevice {s : System σ} (hs : s.Sound) (k : Nat) (r : DeviceRequest)
    (out : Outputs) : (s.act (.callDevice k r out)).Sound := by
  have hturn := turn_callDevice hs k r out
  refine hs.move (hs.world.of_turn hturn) hturn.extends fun d' hd' => ?_
  rw [act_callDevice] at hd' ⊢
  unfold onDevice at hd' ⊢
  cases hdevice : s.devices[k]? with
  | none =>
    rw [hdevice] at hd'
    exact .inl ⟨d', hd', rfl⟩
  | some d =>
    rw [hdevice] at hd'
    have hcall := (Device.keeps_perform r out ⟨d, s.world⟩
      (hs.known d (List.mem_of_getElem? hdevice))).1
    rcases List.mem_or_eq_of_mem_set hd' with hold | rfl
    · exact .inl ⟨d', hold, rfl⟩
    · exact .inr hcall

theorem Sound.createDevice {s : System σ} (hs : s.Sound) (physicalDevice device : Handle)
    (table : EntryTable) (objects : List ValidationObject) :
    (s.act (.createDevice physicalDevice device table objects)).Sound := by
  obtain ⟨hown, hquiet⟩ := Instance.run_startDevice physicalDevice device table objects
    ⟨s.host, s.world⟩
  refine hs.move (hs.world.of_reports hquiet.reports) hquiet.reports.extends fun d' hd' => ?_
  rcases List.mem_append.1 hd' with hold | hnew
  · exact .inl ⟨d', hold, rfl⟩
  · obtain rfl := List.mem_singleton.1 hnew
    refine .inr ⟨?_, fun pool h hh => ?_, fun swapchain h hh => ?_⟩
    · exact hquiet.reports.extends.1.trans hs.world.wrapping
    · have hempty : h ∈ Tracked.empty.setsOf pool := hown ▸ hh
      exact absurd hempty Std.ExtTreeSet.not_mem_empty
    · have hempty : h ∈ Tracked.empty.imagesOf swapchain := hown ▸ hh
      exact absurd hempty List.not_mem_nil

/-- **Whatever happens keeps the invariant.** -/
theorem Sound.act {s : System σ} (hs : s.Sound) (a : Action σ) : (s.act a).Sound := by
  cases a with
  | callInstance r out => exact hs.callInstance r out
  | callDevice k r out => exact hs.callDevice k r out
  | createDevice physicalDevice device table objects =>
    exact hs.createDevice physicalDevice device table objects
  | release device kind => exact hs.modifyRegistry device _
  | releaseAll device => exact hs.modifyRegistry device _
  | instruct behaviour => exact hs.of_same rfl rfl fun d hd => ⟨d, hd, rfl⟩
  | moveBelow f => exact hs.of_same rfl rfl fun d hd => ⟨d, hd, rfl⟩

theorem Sound.run {s : System σ} (hs : s.Sound) (actions : List (Action σ)) :
    (s.run actions).Sound := by
  induction actions generalizing s with
  | nil => exact hs
  | cons a actions ih => exact ih (hs.act a)

omit [NextLayer σ] in
theorem sound_start (instanceHandle : Handle) (requested : ApiVersion) {settings : Settings}
    (hwrapping : settings.handleWrapping = true) (table : EntryTable) (behaviour : Behaviour)
    (objects : List ValidationObject) (below : σ) :
    (start instanceHandle requested settings table behaviour objects below).Sound := by
  refine ⟨⟨hwrapping, fun h hh => ?_, [], ?_, .nil, by simp⟩, by simp [start]⟩
  · have hnone : (SurrogateMap.empty.unwrap h).isSome = true := hh
    simp at hnone
  · exact (silent_map (f := Event.notice) (fun _ => rfl) (fun _ => rfl) _).1

end System

/-! ### Announcements and surrogates -/

/-- What the announcements of a call have to do with the surrogates before and after it:
the call creates objects of the type `type?`, if of any, and destroys those `named` and
their children. -/
structure Mirrors (type? : Option ObjectType) (named : List (ObjectType × Handle))
    (es : List Event) (w w' : World σ) : Prop where
  /-- The events of the call. -/
  events_eq : w'.events = w.events ++ es
  /-- What lives after the call is what lived before and what was created, without what
  was destroyed. -/
  live : ∀ h, w'.Live h ↔
    (w.Live h ∨ h ∈ (createdIn es).map Prod.snd) ∧ h ∉ (destroyedIn es).map Prod.snd
  /-- The null handle is never announced. -/
  ne_zero : ∀ p ∈ createdIn es ++ destroyedIn es, p.2 ≠ 0
  /-- Creations are announced with the type of what was asked for. -/
  created : ∀ p ∈ createdIn es, type? = some p.1
  /-- Ends are announced with the type given in the call or at the creation. -/
  destroyed : ∀ p ∈ destroyedIn es, p ∈ named ∨ p ∈ createdIn w.events
  /-- What is created did not live before and had never been drawn. -/
  fresh : w'.wrapper.map.drawn < drawLimit →
    ∀ p ∈ createdIn es, ¬ w.Live p.2 ∧ ¬ w.wrapper.map.Drawn p.2
  /-- From the beginning on, nothing is announced as created twice. -/
  once : w'.wrapper.map.drawn < drawLimit → ((createdIn w'.events).map Prod.snd).Nodup

/-- Births and deaths are announced as they happen. -/
theorem Turn.mirrors {type? : Option ObjectType} {named : List (ObjectType × Handle)}
    {w w' : World σ} (hw : w.Sound) (h : Turn type? named w w') :
    ∃ es, Mirrors type? named es w w' := by
  have hsound := hw.of_turn h
  cases type? with
  | none =>
    obtain ⟨es, h⟩ := h
    refine ⟨es, h.events_eq, fun k => ?_, ?_, ?_, h.typed, ?_, hsound.nodup⟩
    · rw [h.live, h.created]
      simp
    · rw [h.created]
      exact h.ne_zero
    · simp [h.created]
    · simp [h.created]
  | some type =>
    obtain ⟨es, ns, h⟩ := h
    refine ⟨es, h.events_eq, fun k => ?live, fun p hp => ?ne_zero, fun p hp => ?typed, ?destroyed,
      fun hlt p hp => ?fresh, hsound.nodup⟩
    case live =>
      rw [h.live, h.created, h.destroyed]
      simp [eq_comm]
    case ne_zero =>
      rw [h.created, h.destroyed, List.append_nil] at hp
      obtain ⟨n, hn, rfl⟩ := List.mem_map.1 hp
      exact h.ne_zero n hn
    case typed =>
      rw [h.created] at hp
      obtain ⟨n, -, rfl⟩ := List.mem_map.1 hp
      rfl
    case destroyed =>
      simp [h.destroyed]
    case fresh =>
      rw [h.created] at hp
      obtain ⟨n, hn, rfl⟩ := List.mem_map.1 hp
      have hdrawn : ¬ w.wrapper.map.Drawn (idAt n) := by
        rintro ⟨m, hm, heq⟩
        have hbound := h.drawn n hn
        have hsame := idAt_injective (Nat.lt_trans hbound.2 hlt) (by omega) heq
        omega
      exact ⟨fun hlive => hdrawn (hw.drawn _ hlive), hdrawn⟩

/-- **Announcements mirror the surrogate map.**  After anything that may have happened to
a system that wraps handles, every call to a device and every destruction of a surface
announces exactly the surrogates that it makes or removes, under the types that they were
made with or are destroyed as, and never one that was drawn before. -/
theorem lifetimes_mirror_surrogates [NextLayer σ] (instanceHandle : Handle)
    (requested : ApiVersion) (settings : Settings)
    (hwrapping : settings.handleWrapping = true) (table : EntryTable) (behaviour : Behaviour)
    (objects : List ValidationObject) (below : σ) (actions : List (Action σ)) :
    let s := (System.start instanceHandle requested settings table behaviour objects
      below).run actions
    (∀ (k : Nat) (r : DeviceRequest) (out : Outputs), ∃ es,
      Mirrors r.creates? r.named es s.world (s.act (.callDevice k r out)).world) ∧
    ∀ (surface : Handle) (out : Outputs), ∃ es,
      Mirrors none [(.surface, surface)] es s.world
        (s.act (.callInstance (.destroySurface surface) out)).world := by
  intro s
  have hs : s.Sound :=
    (System.sound_start instanceHandle requested hwrapping table behaviour objects below).run
      actions
  refine ⟨fun k r out => ?_, fun surface out => ?_⟩
  · exact (System.turn_callDevice hs k r out).mirrors hs.world
  · have hdeaths := Instance.deaths_perform (s := ⟨s.host, s.world⟩) hs.world.wrapping
      surface out
    exact Turn.mirrors hs.world hdeaths

/-- A swapchain takes its two images with it. -/
theorem mirrored_swapchain :
    let actions : List (Action Scripted) :=
      [.createDevice 0xd000 0xe000
          ⟨[.createSwapchainKhr, .getSwapchainImagesKhr, .destroySwapchainKhr]⟩ [],
        .callDevice 0 (.create (.swapchain 0 0)) { slots := some [0] },
        .moveBelow fun s => { s with script := { handles := some [some 7, some 8] } },
        .callDevice 0 (.getSwapchainImages (idAt 0)) { slots := some [0, 0], count := 2 }]
    let s := (System.start 0xa000 0 .default .empty default [] {}).run actions
    let s' := s.act (.callDevice 0 (.destroy .swapchain (idAt 0)) {})
    Settings.default.handleWrapping = true ∧
      ∃ es, Mirrors none [(.swapchain, idAt 0)] es s.world s'.world ∧
        createdIn s.world.events
          = [(.swapchain, idAt 0), (.image, idAt 1), (.image, idAt 2)] ∧
        destroyedIn es = [(.image, idAt 1), (.image, idAt 2), (.swapchain, idAt 0)] := by
  intro actions s s'
  have hwrapping : Settings.default.handleWrapping = true := by decide +kernel
  obtain ⟨es, hes⟩ := (lifetimes_mirror_surrogates 0xa000 0 .default hwrapping .empty default []
    {} actions).1 0 (.destroy .swapchain (idAt 0)) {}
  refine ⟨hwrapping, es, hes, by decide +kernel, ?_⟩
  have hbefore : destroyedIn s.world.events = [] := by decide +kernel
  have hafter : destroyedIn s'.world.events
      = [(.image, idAt 1), (.image, idAt 2), (.swapchain, idAt 0)] := by decide +kernel
  have hboth := congrArg destroyedIn hes.events_eq
  rw [destroyedIn_append, hbefore, List.nil_append] at hboth
  exact hboth.symm.trans hafter

end HandleLayer
