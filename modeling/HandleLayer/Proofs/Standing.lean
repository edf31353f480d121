import HandleLayer.Proofs.Displays
import HandleLayer.Proofs.Memos
import Mathlib.Data.List.Nodup

/-!
# Objects that stand

An object lives under the handle that the application got for it until that handle is named as
one to go.  Other objects come and go meanwhile, parents take their children with them, and
displays are shown.  None of this touches the object: no id is drawn twice, and it is the child
of nobody.

## Main definitions

* `System.Stands` — a handle that stands for a real object, and that was announced.

## Main results

* `Wrapper.unwrap_steps` — **a surrogate resolves as before, or not at all any more.**
* `System.stands_of_returns` — an object stands once it was created.
* `System.Stands.act`, `System.Stands.run` — **it stands until it is named as one to go.**
-/

namespace HandleLayer

variable {σ : Type}

/-! ### Surrogates along steps -/

namespace Wrapper

variable {shows : Prop} {w w' : Wrapper} {k : Handle}

/-- One step removes a surrogate, or it leaves alone what was drawn before. -/
theorem unwrap_step (h : Step shows w w') (hk : w.map.Drawn k)
    (hlimit : w'.map.drawn ≤ drawLimit) :
    w'.map.unwrap k = w.map.unwrap k ∨ w'.map.unwrap k = none := by
  rcases h.inv with rfl | ⟨n, real, henters⟩ | ⟨gone, rfl⟩
  · exact .inl rfl
  · have hdrawn := henters.drawn_eq
    have hne := hk.ne_later henters.later (by omega)
    rw [henters.unwrap, if_neg hne.symm]
    exact .inl rfl
  · unfold erase
    split
    · exact .inl rfl
    · rw [SurrogateMap.unwrap_erase]
      split
      · exact .inr rfl
      · exact .inl rfl

theorem drawn_le_steps (h : Relation.ReflTransGen (Step shows) w w') :
    w.map.drawn ≤ w'.map.drawn := by
  induction h with
  | refl => exact Nat.le_refl _
  | tail _ hstep ih => exact Nat.le_trans ih hstep.drawn_le

/-- **A surrogate resolves as before, or not at all any more**, however many steps there are. -/
theorem unwrap_steps (h : Relation.ReflTransGen (Step shows) w w') (hk : w.map.Drawn k)
    (hlimit : w'.map.drawn ≤ drawLimit) :
    w'.map.unwrap k = w.map.unwrap k ∨ w'.map.unwrap k = none := by
  induction h with
  | refl => exact .inl rfl
  | tail hsteps hstep ih =>
    rcases unwrap_step hstep (hk.mono (drawn_le_steps hsteps)) hlimit with hsame | hnone
    · rw [hsame]
      exact ih (Nat.le_trans hstep.drawn_le hlimit)
    · exact .inr hnone

end Wrapper

/-! ### Objects along runs -/

namespace System

variable {s : System σ} {type : ObjectType} {h real : Handle}

/-- A handle of this type stands for a real object, and it was announced as created. -/
structure Stands (s : System σ) (type : ObjectType) (h real : Handle) : Prop where
  ne_zero : h ≠ 0
  resolves : s.world.wrapper.map.unwrap h = some real
  announced : (type, h) ∈ createdIn s.world.events

theorem Stands.live (hs : s.Stands type h real) : s.world.Live h := by
  unfold World.Live
  rw [hs.resolves]
  rfl

theorem Stands.unwrap_eq (hs : s.Stands type h real) (hw : s.world.wrapper.enabled = true) :
    s.world.wrapper.unwrap h = real :=
  Wrapper.unwrap_of_resolves hw hs.ne_zero hs.resolves

/-- A child of a device is a set or an image. -/
theorem ne_of_mem_children (hsound : s.Sound) (hlimit : s.world.wrapper.map.drawn < drawLimit)
    (hannounced : (type, h) ∈ createdIn s.world.events) (hzero : h ≠ 0)
    (htype : type ≠ .descriptorSet ∧ type ≠ .image) {d : Dispatch Tracked} (hd : d ∈ s.devices)
    (f : Family) (p : Handle) : h ∉ d.own.children f p := by
  intro hmem
  have honce : ∀ type', (type', h) ∈ createdIn s.world.events → type = type' := fun type' hmem' =>
    (Prod.mk.inj (List.inj_on_of_nodup_map (hsound.world.nodup hlimit) hannounced hmem' rfl)).1
  have hknown := hsound.known d hd
  cases f with
  | sets => exact htype.1 (honce _ (hknown.sets p h (Tracked.mem_children_sets.1 hmem) hzero))
  | images => exact htype.2 (honce _ (hknown.images p h hmem hzero))

variable [NextLayer σ]

/-- Whatever happens changes the surrogates step by step. -/
theorem steps_act (s : System σ) (a : Action σ) : ∃ shows, Relation.ReflTransGen
    (Wrapper.Step shows) s.world.wrapper (s.act a).world.wrapper := by
  cases a with
  | callInstance r out => exact ⟨_, Instance.steps_perform r out ⟨s.host, s.world⟩⟩
  | callDevice k r out =>
    cases hdevice : s.devices[k]? with
    | none =>
      rw [act_of_no_device hdevice]
      exact ⟨True, .refl⟩
    | some device =>
      rw [act_of_device hdevice]
      exact ⟨_, Device.steps_perform r out ⟨device, s.world⟩⟩
  | createDevice physicalDevice handle table objects =>
    have hwrapper : (s.act (.createDevice physicalDevice handle table objects)).world.wrapper
        = s.world.wrapper :=
      (Instance.run_startDevice physicalDevice handle table objects ⟨s.host, s.world⟩).2.1
    rw [hwrapper]
    exact ⟨True, .refl⟩
  | release device kind => cases device <;> exact ⟨True, .refl⟩
  | releaseAll device => cases device <;> exact ⟨True, .refl⟩
  | instruct behaviour => exact ⟨True, .refl⟩
  | moveBelow f => exact ⟨True, .refl⟩

/-- Whatever happens adds to what was seen. -/
theorem extends_act (hs : s.Sound) (a : Action σ) : s.world.Extends (s.act a).world := by
  have hsame : s.world.Extends s.world := ⟨rfl, [], (List.append_nil _).symm⟩
  cases a with
  | callInstance r out =>
    rcases Instance.deaths_or_reports_perform (s := ⟨s.host, s.world⟩) hs.world.wrapping r out
      with ⟨surface, hdeaths⟩ | hreports
    · have hturn : Turn none [(.surface, surface)] s.world _ := hdeaths
      exact hturn.extends
    · exact hreports.extends
  | callDevice k r out => exact (turn_callDevice hs k r out).extends
  | createDevice physicalDevice handle table objects =>
    exact (Instance.run_startDevice physicalDevice handle table objects
      ⟨s.host, s.world⟩).2.reports.extends
  | release device kind => cases device <;> exact hsame
  | releaseAll device => cases device <;> exact hsame
  | instruct behaviour => exact hsame
  | moveBelow f => exact hsame

/-- An object of a type that nobody has as children lives until it is named as one to go. -/
theorem Stands.live_act (hs : s.Stands type h real) (hsound : s.Sound)
    (htype : type ≠ .descriptorSet ∧ type ≠ .image) {a : Action σ} (ha : h ∉ a.doomed)
    (hlimit : s.world.wrapper.map.drawn < drawLimit) : (s.act a).world.Live h := by
  by_cases hrears : ∀ x, s.happening? a = some x → x.request.rears? = none
  · exact (fares_act hsound hrears).kept h hs.live ha
  · obtain ⟨k, device, r, out, f, p, rfl, hdevice, hr⟩ := exists_of_rears hrears
    obtain ⟨gone, fresh, htended⟩ := Device.exists_tended_perform (s := ⟨device, s.world⟩) hr out
      hsound.world.wrapping
    rw [act_of_device hdevice]
    refine (htended.live h hs.ne_zero).2 (.inl ⟨hs.live, fun hgone => ?_⟩)
    rcases htended.gone_mem h hgone with hchild | hnamed
    · exact ne_of_mem_children hsound hlimit hs.announced hs.ne_zero htype
        (List.mem_of_getElem? hdevice) f p hchild
    · exact ha hnamed

/-- **An object stands until it is named as one to go.** -/
theorem Stands.act (hs : s.Stands type h real) (hsound : s.Sound)
    (htype : type ≠ .descriptorSet ∧ type ≠ .image) {a : Action σ} (ha : h ∉ a.doomed)
    (hlimit : (s.act a).world.wrapper.map.drawn < drawLimit) :
    (s.act a).Stands type h real := by
  have hbefore : s.world.wrapper.map.drawn < drawLimit :=
    Nat.lt_of_le_of_lt (drawn_le_act hsound a) hlimit
  have hlive := hs.live_act hsound htype ha hbefore
  obtain ⟨shows, hsteps⟩ := s.steps_act a
  obtain ⟨-, es, hevents⟩ := extends_act hsound a
  refine ⟨hs.ne_zero, ?_, ?_⟩
  · rcases Wrapper.unwrap_steps hsteps (hsound.world.drawn h hs.live) (Nat.le_of_lt hlimit)
      with hsame | hnone
    · exact hsame.trans hs.resolves
    · unfold World.Live at hlive
      rw [hnone] at hlive
      cases hlive
  · rw [hevents, createdIn_append]
    exact List.mem_append_left _ hs.announced

theorem Stands.run (hs : s.Stands type h real) (hsound : s.Sound)
    (htype : type ≠ .descriptorSet ∧ type ≠ .image) {actions : List (Action σ)}
    (hactions : ∀ a ∈ actions, h ∉ a.doomed)
    (hlimit : (s.run actions).world.wrapper.map.drawn < drawLimit) :
    (s.run actions).Stands type h real := by
  induction actions generalizing s with
  | nil => exact hs
  | cons a actions ih =>
    have hnext := hsound.act a
    have hlater : (s.act a).world.wrapper.map.drawn < drawLimit :=
      Nat.lt_of_le_of_lt (drawn_le_run hnext actions) hlimit
    exact ih (hs.act hsound htype (hactions a List.mem_cons_self) hlater) hnext
      (fun b hb => hactions b (List.mem_cons_of_mem a hb)) hlimit

/-- An object stands once it was created, for what the next layer has written. -/
theorem stands_of_create (hsound : s.Sound) {k : Nat} {device : Dispatch Tracked}
    (hdevice : s.devices[k]? = some device) {info : CreateInfo} {out : Outputs}
    {rest : List Handle} (hzero : h ≠ 0)
    (hsuccess : ((Device.perform (.create info) out).run ⟨device, s.world⟩).1.1 = .success)
    (hslots : ((Device.perform (.create info) out).run ⟨device, s.world⟩).1.2.slots
      = some (h :: rest))
    (hlimit : (s.act (.callDevice k (.create info) out)).world.wrapper.map.drawn < drawLimit) :
    ∃ real rest', out.slots.map (overlay · (Device.answer (.create info)
          (out.slots.map List.length) ⟨device, s.world⟩).slots) = some (real :: rest') ∧
      (s.act (.callDevice k (.create info) out)).Stands info.objectType h real := by
  obtain ⟨real, -, hreal, hh, hwrapper, -⟩ := Device.exists_of_perform_create
    (s := ⟨device, s.world⟩) hsound.world.wrapping hsuccess hslots
  have hwritten : real ≠ 0 := by
    rintro rfl
    rw [Wrapper.wrapNew_zero] at hh
    exact hzero hh
  obtain ⟨n, hn, -, hwrap⟩ := Wrapper.exists_wrapNew_eq hsound.world.wrapping hwritten
  rw [hwrap] at hh hwrapper
  dsimp only at hh hwrapper
  subst hh
  have hworld : (s.act (.callDevice k (.create info) out)).world.wrapper
      = { s.world.wrapper with map := s.world.wrapper.map.enter n real } := by
    rw [act_of_device hdevice]
    exact hwrapper
  have hresolves : (s.act (.callDevice k (.create info) out)).world.wrapper.map.unwrap (idAt n)
      = some real := by
    rw [hworld, SurrogateMap.unwrap_enter, if_pos rfl]
  refine ⟨real, _, hreal, hzero, hresolves, ?_⟩
  -- what lives now and did not before was announced by this call
  obtain ⟨es, hmirrors⟩ := (turn_callDevice hsound k (.create info) out).mirrors hsound.world
  obtain ⟨hlive | hborn, -⟩ := (hmirrors.live (idAt n)).1 (by
    unfold World.Live
    rw [hresolves]
    rfl)
  · have hlater : n < drawLimit := by
      rw [hworld, SurrogateMap.drawn_enter] at hlimit
      omega
    exact absurd rfl ((hsound.world.drawn _ hlive).ne_later hn hlater)
  · obtain ⟨p, hp, hpn⟩ := List.mem_map.1 hborn
    have htype : info.objectType = p.1 := Option.some.inj (hmirrors.created p hp)
    rw [hmirrors.events_eq, createdIn_append, htype, ← hpn]
    exact List.mem_append_right _ hp

end System

end HandleLayer
