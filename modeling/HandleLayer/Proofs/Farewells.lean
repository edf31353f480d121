import HandleLayer.Proofs.Handouts
import HandleLayer.Scripted

/-!
# Farewells

An application that destroys only what it has created expects that the validation objects have
heard of the creation of everything that they hear the end of.  While handles are wrapped, they
have.  Otherwise they have not heard of pipelines, yet they hear of their ends.

## Main definitions

* `System.made` — the objects that an application has created by an action.
* `System.endsOwn` — whether an application destroys only what it has created.
* `Heralded` — whatever ends was announced before.

## Main results

* `System.exists_parts` — what an action announces, and what that has to do with what it makes
  and names.
* `System.heralded_run` — whatever ends was announced before.
* `announcements_depend_on_wrapping` — **what is announced of newcomers, with wrapping and
  without it.**
-/

namespace HandleLayer

variable {σ : Type}

/-! ### Ends that were heralded -/

/-- Whatever of this type is announced as destroyed was announced as created before. -/
def Heralded (type : ObjectType) (es : List Event) : Prop :=
  ∀ before e after, es = before ++ e :: after → ∀ h, e.destroyed? = some (type, h) →
    (type, h) ∈ createdIn before

namespace Heralded

variable {type : ObjectType} {es es' : List Event}

theorem of_none (h : ∀ p ∈ destroyedIn es, p.1 ≠ type) : Heralded type es := by
  rintro before e after rfl k hk
  refine absurd rfl (h (type, k) ?_)
  rw [destroyedIn_append]
  exact List.mem_append_right _ (List.mem_filterMap.2 ⟨e, List.mem_cons_self, hk⟩)

/-- What ends further on was announced before all of that. -/
theorem append (h : Heralded type es)
    (h' : ∀ k, (type, k) ∈ destroyedIn es' → (type, k) ∈ createdIn es) :
    Heralded type (es ++ es') := by
  intro before e after hsplit k hk
  rcases List.append_eq_append_iff.1 hsplit with ⟨more, rfl, hes'⟩ | ⟨more, hes, hrest⟩
  · -- the end comes further on
    have hend : (type, k) ∈ destroyedIn es' := by
      rw [hes']
      exact List.mem_filterMap.2 ⟨e, List.mem_append_right _ List.mem_cons_self, hk⟩
    rw [createdIn_append]
    exact List.mem_append_left _ (h' k hend)
  · cases more with
    | nil =>
      have hend : (type, k) ∈ destroyedIn es' := by
        rw [← List.nil_append es', ← hrest]
        exact List.mem_filterMap.2 ⟨e, List.mem_cons_self, hk⟩
      rw [List.append_nil] at hes
      rw [← hes]
      exact h' k hend
    | cons e' more =>
      obtain ⟨rfl, -⟩ := List.cons.inj hrest
      exact h before e more hes k hk

/-- An end that nothing has heralded. -/
theorem not_append {k : Handle} (h : (type, k) ∈ destroyedIn es')
    (hcreated : (type, k) ∉ createdIn (es ++ es')) : ¬ Heralded type (es ++ es') := by
  intro hheralded
  obtain ⟨e, he, hk⟩ := List.mem_filterMap.1 h
  obtain ⟨before, after, rfl⟩ := List.append_of_mem he
  refine hcreated ?_
  rw [← List.append_assoc, createdIn_append]
  exact List.mem_append_left _ (hheralded (es ++ before) e after (List.append_assoc ..).symm k hk)

end Heralded

/-! ### What applications make and destroy -/

/-- The objects that an action names as the ones to go. -/
def Action.named : Action σ → List (ObjectType × Handle)
  | .callDevice _ r _ => r.named
  | .callInstance (.destroySurface surface) _ => [(.surface, surface)]
  | _ => []

/-- The objects that a call to a device has created for the application: at once, or as the
pipelines that are handed out when an operation completes.  The images of a swapchain are not the
application's own, and a call that is skipped creates nothing. -/
def Device.creations [NextLayer σ] (r : DeviceRequest) (out : Outputs) (s : Layer Tracked σ) :
    List (ObjectType × Handle) :=
  let u := (perform r out).run s
  if s.object.registry.chain.vetoes s.world.behaviour r.command = true then []
  else
    match r with
    | .getSwapchainImages _ => []
    | .joinOperation operation | .queryOperation operation =>
      match s.object.own.deferred.get? operation with
      | some p =>
        if u.1.1 = .success then objectsOf .pipeline (p.handedOut u.2.world.memory) else []
      | none => []
    | r => r.debuts s.object.own u.1

namespace System

variable [NextLayer σ]

/-- The objects that the application has created by an action. -/
def made (s : System σ) : Action σ → List (ObjectType × Handle)
  | .callDevice k r out =>
    ((s.devices[k]?).map fun device => Device.creations r out ⟨device, s.world⟩).getD []
  | _ => []

/-- Whether an application that has created `own` goes on to destroy no objects of a type but
those that it has created. -/
def endsOwn (type : ObjectType) (own : List (ObjectType × Handle)) (s : System σ) :
    List (Action σ) → Bool
  | [] => true
  | a :: actions =>
    (a.named.all fun p => p.1 != type || p.2 == 0 || own.contains p) &&
      (s.act a).endsOwn type (own ++ s.made a) actions

end System

/-- Whether objects of a type are created one at a time and not many at once. -/
def ObjectType.comesAlone : ObjectType → Bool
  | pipeline | descriptorSet => false
  | _ => true

theorem CreateInfo.comesAlone_objectType (info : CreateInfo) :
    info.objectType.comesAlone = true := by
  cases info <;> rfl

/-! ### One step of a run -/

/-- From one state to the next, `born` is announced as created and `gone` as destroyed.  All that
was made for the application is announced, unless handles are not wrapped and it is one of many;
and what goes was named, or was announced before. -/
structure Parts (made named born gone : List (ObjectType × Handle)) (w w' : World σ) : Prop where
  announces : Announces born gone w w'
  made : ∀ p ∈ made, w.wrapper.enabled = true ∨ p.1.comesAlone = true → p ∈ born
  ended : ∀ p ∈ gone, p ∈ createdIn w.events ∨ p.2 ≠ 0 ∧ p ∈ named
  /-- Without wrapping, nothing of what comes many at once is announced. -/
  alone : w.wrapper.enabled = false → ∀ p ∈ born, p.1.comesAlone = true
  /-- Without wrapping, the validation objects do not hear of descriptor sets. -/
  sets : w.wrapper.enabled = false → ∀ p ∈ gone, p.1 ≠ .descriptorSet

/-- Something that makes and announces nothing. -/
theorem Parts.of_quiet {w w' : World σ} (h : Quiet w w') (named : List (ObjectType × Handle)) :
    Parts [] named [] [] w w' where
  announces := .of_quiet h
  made _ hp := absurd hp List.not_mem_nil
  ended _ hp := absurd hp List.not_mem_nil
  alone _ _ hp := absurd hp List.not_mem_nil
  sets _ _ hp := absurd hp List.not_mem_nil

namespace Device

/-- What a device keeps as children was announced. -/
theorem announced_of_kept {s : Layer Tracked σ} (hs : s.Known ∨ s.Plain)
    {p : ObjectType × Handle} (hzero : p.2 ≠ 0)
    (hp : (p.1 = .descriptorSet ∧ ∃ pool, p.2 ∈ s.object.own.setsOf pool) ∨
      (p.1 = .image ∧ ∃ swapchain, p.2 ∈ s.object.own.imagesOf swapchain)) :
    s.world.wrapper.enabled = true ∧ p ∈ createdIn s.world.events := by
  obtain ⟨type, h⟩ := p
  rcases hs with hknown | hplain
  · refine ⟨hknown.wrapping, ?_⟩
    rcases hp with ⟨rfl, pool, hmem⟩ | ⟨rfl, swapchain, hmem⟩
    · exact hknown.sets pool h hmem hzero
    · exact hknown.images swapchain h hmem hzero
  · -- nothing is kept
    rcases hp with ⟨-, pool, hmem⟩ | ⟨-, swapchain, hmem⟩
    · rw [hplain.own] at hmem
      exact absurd hmem Std.ExtTreeSet.not_mem_empty
    · rw [hplain.own] at hmem
      exact absurd hmem List.not_mem_nil

variable [NextLayer σ]

/-- What a call has created is among what it brings to the notice of the application. -/
theorem mem_debuts_of_creations {r : DeviceRequest} {out : Outputs} {s : Layer Tracked σ}
    (hr : r.awaits? = none) {p : ObjectType × Handle} (hp : p ∈ creations r out s) :
    p ∈ r.debuts s.object.own ((perform r out).run s).1 ∧
      (p.1.comesAlone = true → r.createsOne = true) := by
  unfold creations at hp
  split at hp
  · cases hp
  · cases r with
    | create info => exact ⟨hp, fun _ => rfl⟩
    | allocateSets pool layouts =>
      have hsets := (List.mem_ite_nil_right.1 hp).2
      refine ⟨hp, fun halone => ?_⟩
      rw [(mem_objectsOf.1 hsets).1] at halone
      cases halone
    | createGraphicsPipelines cache infos | createComputePipelines cache infos =>
      refine ⟨hp, fun halone => ?_⟩
      rw [(mem_objectsOf.1 hp).1] at halone
      cases halone
    | createRayTracingPipelines batch operation cache infos =>
      have hpipelines := (List.mem_ite_nil_left.1 hp).2
      refine ⟨hp, fun halone => ?_⟩
      rw [(mem_objectsOf.1 hpipelines).1] at halone
      cases halone
    | joinOperation operation | queryOperation operation => cases hr
    | _ => cases hp

/-- What a call has created that asks for the result of an operation. -/
theorem exists_of_mem_creations {r : DeviceRequest} {operation : Handle} {out : Outputs}
    {s : Layer Tracked σ} (hr : r.awaits? = some operation) {p : ObjectType × Handle}
    (hp : p ∈ creations r out s) :
    let u := (perform r out).run s
    ∃ q, s.object.own.deferred.get? operation = some q ∧ u.1.1 = .success ∧
      p ∈ objectsOf .pipeline (q.handedOut u.2.world.memory) := by
  intro u
  unfold creations at hp
  split at hp
  · cases hp
  · cases r with
    | joinOperation other | queryOperation other =>
      cases hr
      dsimp only at hp
      cases hq : s.object.own.deferred.get? operation with
      | none =>
        rw [hq] at hp
        cases hp
      | some q =>
        rw [hq] at hp
        obtain ⟨hsuccess, hmem⟩ := List.mem_ite_nil_right.1 hp
        exact ⟨q, rfl, hsuccess, hmem⟩
    | _ => cases hr

omit [NextLayer σ] in
/-- Without wrapping, descriptor sets do not go on their own. -/
theorem ne_descriptorSet_of_named {r : DeviceRequest} {t : Tracked} {result : Result}
    {p : ObjectType × Handle} (hp : p ∈ r.departures t false result) (hnamed : p ∈ r.named) :
    p.1 ≠ .descriptorSet := by
  cases r with
  | destroy kind h =>
    rw [List.mem_singleton.1 hnamed]
    cases kind <;> exact nofun
  | releaseConfiguration h =>
    rw [List.mem_singleton.1 hnamed]
    exact nofun
  | freeSets pool sets => simp [DeviceRequest.departures] at hp
  | _ => cases hnamed

/-- **What a call announces, makes and names.** -/
theorem exists_parts {s : Layer Tracked σ} (hs : s.Known ∨ s.Plain) (r : DeviceRequest)
    (out : Outputs) : ∃ born gone, Parts (creations r out s) r.named born gone s.world
      ((perform r out).run s).2.world := by
  cases hveto : s.object.registry.chain.vetoes s.world.behaviour r.command with
  | true =>
    have hnone : creations r out s = [] := if_pos hveto
    rw [hnone]
    exact ⟨[], [], .of_quiet (quiet_perform_of_vetoes hveto out) _⟩
  | false =>
    cases hr : r.awaits? with
    | some operation =>
      rcases hs with hknown | hplain
      · obtain ⟨hannounces, hborn⟩ := announces_perform_of_awaits hr hknown.wrapping out
        refine ⟨_, [], hannounces, fun p hp _ => ?made, ?ended, ?alone, ?sets⟩
        case made =>
          obtain ⟨q, hq, hsuccess, hmem⟩ := exists_of_mem_creations hr hp
          obtain ⟨htype, hh, hzero⟩ := mem_objectsOf.1 hmem
          obtain ⟨type, h⟩ := p
          obtain rfl := htype
          exact hborn q hq hsuccess h hh hzero
        case ended =>
          exact fun _ hp => absurd hp List.not_mem_nil
        case alone =>
          exact fun hdisabled => absurd (hknown.wrapping.symm.trans hdisabled) nofun
        case sets =>
          exact fun _ _ hp => absurd hp List.not_mem_nil
      · have hnone : creations r out s = [] := by
          refine List.eq_nil_iff_forall_not_mem.2 fun p hp => ?_
          obtain ⟨q, hq, -⟩ := exists_of_mem_creations hr hp
          rw [hplain.own.get?_deferred] at hq
          cases hq
        rw [hnone]
        exact ⟨[], [], .of_quiet (quiet_perform_of_awaits hr hplain out) _⟩
    | none =>
      refine ⟨_, _, announces_perform hr hveto out, fun p hp hcounts => ?made, fun p hp => ?ended,
        fun hdisabled p hp => ?alone, fun hdisabled p hp => ?sets⟩
      case made =>
        obtain ⟨hdebut, halone⟩ := mem_debuts_of_creations hr hp
        rw [DeviceRequest.welcomed, if_pos (hcounts.imp id halone)]
        exact hdebut
      case ended =>
        obtain ⟨hzero, hnamed | hkept⟩ := DeviceRequest.of_mem_departures hp
        · exact .inr ⟨hzero, hnamed⟩
        · exact .inl (announced_of_kept hs hzero hkept).2
      case alone =>
        obtain ⟨hcond, hdebut⟩ := List.mem_ite_nil_right.1 hp
        cases r with
        | create info =>
          have hmem := (List.mem_ite_nil_right.1 hdebut).2
          rw [(mem_objectsOf.1 hmem).1]
          exact info.comesAlone_objectType
        | _ =>
          rcases hcond with hwraps | hone
          · exact absurd (hwraps.symm.trans hdisabled) nofun
          · cases hone
      case sets =>
        rw [hdisabled] at hp
        obtain ⟨hzero, hnamed | hkept⟩ := DeviceRequest.of_mem_departures hp
        · exact ne_descriptorSet_of_named hp hnamed
        · exact absurd ((announced_of_kept hs hzero hkept).1.symm.trans hdisabled) nofun

end Device

/-! ### Runs -/

namespace System

variable {s : System σ}

theorem layer_of_device (hs : s.Sound ∨ s.Plain) {device : Dispatch Tracked}
    (hdevice : device ∈ s.devices) :
    Layer.Known ⟨device, s.world⟩ ∨ Layer.Plain ⟨device, s.world⟩ :=
  hs.imp (fun hsound => hsound.known device hdevice) fun hplain => hplain.layer hdevice

variable [NextLayer σ]

/-- **What an action announces, makes and names.** -/
theorem exists_parts (hs : s.Sound ∨ s.Plain) (a : Action σ) :
    ∃ born gone, Parts (s.made a) a.named born gone s.world (s.act a).world := by
  cases a with
  | callInstance r out =>
    have hannounces := Instance.announces_perform r out ⟨s.host, s.world⟩
    refine ⟨[], _, hannounces, fun p hp => absurd hp List.not_mem_nil, fun p hp => ?_,
      fun _ p hp => absurd hp List.not_mem_nil, fun _ p hp => ?_⟩
    · obtain ⟨surface, rfl, rfl, hzero⟩ :=
        InstanceRequest.exists_of_mem_departures (List.mem_ite_nil_left.1 hp).2
      exact .inr ⟨hzero, List.mem_singleton_self _⟩
    · obtain ⟨surface, rfl, rfl, -⟩ :=
        InstanceRequest.exists_of_mem_departures (List.mem_ite_nil_left.1 hp).2
      exact nofun
  | callDevice k r out =>
    cases hdevice : s.devices[k]? with
    | none =>
      have hmade : s.made (.callDevice k r out) = [] := by
        show (Option.map _ s.devices[k]?).getD [] = []
        rw [hdevice]
        rfl
      rw [act_of_no_device hdevice, hmade]
      exact ⟨[], [], .of_quiet (.refl s.world) _⟩
    | some device =>
      have hmade : s.made (.callDevice k r out) = Device.creations r out ⟨device, s.world⟩ := by
        show (Option.map _ s.devices[k]?).getD [] = _
        rw [hdevice]
        rfl
      rw [act_of_device hdevice, hmade]
      exact Device.exists_parts (layer_of_device hs (List.mem_of_getElem? hdevice)) r out
  | createDevice physicalDevice device table objects =>
    have hquiet := (Instance.run_startDevice physicalDevice device table objects
      ⟨s.host, s.world⟩).2
    exact ⟨[], [], .of_quiet hquiet _⟩
  | release device kind | releaseAll device =>
    have hquiet : ∀ f, Quiet s.world (s.modifyRegistry device f).world := fun f => by
      cases device <;> exact .refl s.world
    exact ⟨[], [], .of_quiet (hquiet _) _⟩
  | instruct behaviour =>
    have hquiet : Quiet s.world (s.act (.instruct behaviour)).world :=
      ⟨rfl, [], (List.append_nil _).symm, silent_nil⟩
    exact ⟨[], [], .of_quiet hquiet _⟩
  | moveBelow f =>
    have hquiet : Quiet s.world (s.act (.moveBelow f)).world :=
      ⟨rfl, [], (List.append_nil _).symm, silent_nil⟩
    exact ⟨[], [], .of_quiet hquiet _⟩

/-- **Whatever ends was announced before**, if the application destroys only what it has
created. -/
theorem heralded_run {type : ObjectType} {own : List (ObjectType × Handle)} (hs : s.Sound ∨ s.Plain)
    (htype : s.world.wrapper.enabled = true ∨ type.comesAlone = true)
    (hown : ∀ h, (type, h) ∈ own → (type, h) ∈ createdIn s.world.events)
    (hheralded : Heralded type s.world.events) {actions : List (Action σ)}
    (hends : s.endsOwn type own actions = true) : Heralded type (s.run actions).world.events := by
  induction actions generalizing s own with
  | nil => exact hheralded
  | cons a actions ih =>
    obtain ⟨hrule, hrest⟩ := Bool.and_eq_true_iff.1 hends
    obtain ⟨born, gone, hparts⟩ := exists_parts hs a
    have htype' : (s.act a).world.wrapper.enabled = true ∨ type.comesAlone = true := by
      rcases hs with hsound | hplain
      · exact .inl (hsound.act a).world.wrapping
      · refine htype.imp_left fun hwraps => ?_
        rw [hplain.wrapper] at hwraps
        cases hwraps
    have hcreated := hparts.announces.created
    refine ih (hs.imp (·.act a) (·.act a)) htype' (fun h hh => ?_) ?_ hrest
    · rw [hcreated]
      rcases List.mem_append.1 hh with hold | hnew
      · exact List.mem_append_left _ (hown h hold)
      · exact List.mem_append_right _ (hparts.made _ hnew htype)
    · obtain ⟨es, hevents, -, rfl⟩ := hparts.announces
      rw [hevents]
      refine hheralded.append fun h hh => ?_
      -- what goes was announced, or the application has made it and names it
      rcases hparts.ended _ hh with hknown | ⟨hzero, hnamed⟩
      · exact hknown
      · have hall := List.all_eq_true.1 hrule _ hnamed
        simp only [bne_self_eq_false, Bool.false_or, Bool.or_eq_true, beq_iff_eq, hzero,
          false_or, List.contains_iff_mem] at hall
        exact hown h hall

/-- Without wrapping, the validation objects hear nothing of objects that come many at once, but
for the ends of pipelines. -/
theorem unheard_run (hs : s.Plain)
    (hcreated : ∀ p ∈ createdIn s.world.events, p.1.comesAlone = true)
    (hdestroyed : ∀ p ∈ destroyedIn s.world.events, p.1 ≠ .descriptorSet)
    (actions : List (Action σ)) :
    (∀ p ∈ createdIn (s.run actions).world.events, p.1.comesAlone = true) ∧
      ∀ p ∈ destroyedIn (s.run actions).world.events, p.1 ≠ .descriptorSet := by
  induction actions generalizing s with
  | nil => exact ⟨hcreated, hdestroyed⟩
  | cons a actions ih =>
    obtain ⟨born, gone, hparts⟩ := exists_parts (.inr hs) a
    have hdisabled : s.world.wrapper.enabled = false := by
      rw [hs.wrapper]
      rfl
    obtain ⟨es, hevents, hborn, hgone⟩ := hparts.announces
    refine ih (hs.act a) (fun p hp => ?_) fun p hp => ?_
    · rw [hevents, createdIn_append, hborn] at hp
      exact (List.mem_append.1 hp).elim (hcreated p) (hparts.alone hdisabled p)
    · rw [hevents, destroyedIn_append, hgone] at hp
      exact (List.mem_append.1 hp).elim (hdestroyed p) (hparts.sets hdisabled p)

omit [NextLayer σ] in
/-- Nothing is announced at the beginning. -/
theorem silent_start (instanceHandle : Handle) (requested : ApiVersion) (settings : Settings)
    (table : EntryTable) (behaviour : Behaviour) (objects : List ValidationObject) (below : σ) :
    Silent (start instanceHandle requested settings table behaviour objects below).world.events :=
  silent_map (f := Event.notice) (fun _ => rfl) (fun _ => rfl) _

end System

/-! ### With wrapping and without it -/

/-- What is announced as created by one call has handles of its own. -/
theorem System.nodup_welcomed [NextLayer σ] {s : System σ} (hs : s.Sound ∨ s.Plain) {k : Nat}
    {r : DeviceRequest} {out : Outputs} {t : Tracked} {o : Outcome}
    {gone : List (ObjectType × Handle)}
    (h : Announces (r.welcomed s.world.wrapper.enabled t o) gone s.world
      (s.act (.callDevice k r out)).world)
    (hlt : (s.act (.callDevice k r out)).world.wrapper.map.drawn < drawLimit) :
    (r.welcomed s.world.wrapper.enabled t o).Nodup := by
  rcases hs with hsound | hplain
  · obtain ⟨es, hmirrors⟩ := (turn_callDevice hsound k r out).mirrors hsound.world
    have honce := hmirrors.once hlt
    rw [h.created, List.map_append] at honce
    exact (List.nodup_append.1 honce).2.1.of_map
  · -- at most one object is announced
    rw [hplain.wrapper]
    cases r with
    | create info =>
      have hone : ∀ slots : List Handle, (objectsOf info.objectType (slots.take 1)).Nodup := by
        intro slots
        have htake : (slots.take 1).Nodup := by
          cases slots with
          | nil => exact .nil
          | cons h rest => exact List.nodup_singleton h
        exact (htake.filter _).map fun _ _ heq => (Prod.mk.inj heq).2
      show (if o.1 = .success then _ else []).Nodup
      split
      · exact hone _
      · exact .nil
    | _ => exact .nil

/-- **Newcomers are announced while handles are wrapped; otherwise only those are that come
alone.**  Take any settings, and anything that may have happened to a system.  A call to a device
that is not skipped, and does not ask for the result of an operation, announces each newcomer once
if handles are wrapped, and otherwise only an object that it creates alone; and it announces the
end of everything that it does away with.  So whatever ends was announced before, in every run in
which the application destroys only what it has created, unless handles are not wrapped and it is
a pipeline.  Of pipelines no creation is announced then, and still their ends are. -/
theorem announcements_depend_on_wrapping [NextLayer σ] (instanceHandle : Handle)
    (requested : ApiVersion) (settings : Settings) (table : EntryTable) (behaviour : Behaviour)
    (objects : List ValidationObject) (below : σ) (actions : List (Action σ)) :
    let begun := System.start instanceHandle requested settings table behaviour objects below
    let s := begun.run actions
    let wraps := settings.handleWrapping
    (∀ k device, s.devices[k]? = some device → ∀ r out, r.awaits? = none →
      device.registry.chain.vetoes s.world.behaviour r.command = false →
      let o := ((Device.perform r out).run ⟨device, s.world⟩).1
      let s' := s.act (.callDevice k r out)
      Announces (r.welcomed wraps device.own o) (r.departures device.own wraps o.1) s.world
          s'.world ∧
        (s'.world.wrapper.map.drawn < drawLimit → (r.welcomed wraps device.own o).Nodup)) ∧
    (∀ type, wraps = true ∨ type ≠ .pipeline → begun.endsOwn type [] actions = true →
      Heralded type s.world.events) ∧
    (wraps = false → (∀ h, (.pipeline, h) ∉ createdIn s.world.events) ∧
      ∀ k device, s.devices[k]? = some device → ∀ h out, h ≠ 0 →
        device.registry.chain.vetoes s.world.behaviour .destroyPipeline = false →
        ¬ Heralded .pipeline (s.act (.callDevice k (.destroy .pipeline h) out)).world.events) := by
  intro begun s wraps
  have hkinds : (wraps = true ∧ begun.Sound) ∨ (wraps = false ∧ begun.Plain) := by
    cases hwraps : wraps with
    | true => exact .inl ⟨rfl, System.sound_start instanceHandle requested hwraps table behaviour
        objects below⟩
    | false => exact .inr ⟨rfl, System.plain_start instanceHandle requested hwraps table behaviour
        objects below⟩
  have hbegun : begun.Sound ∨ begun.Plain := hkinds.imp And.right And.right
  have hs : s.Sound ∨ s.Plain := hbegun.imp (·.run actions) (·.run actions)
  have henabled : s.world.wrapper.enabled = wraps := by
    rcases hkinds with ⟨hwraps, hsound⟩ | ⟨hwraps, hplain⟩
    · exact (hsound.run actions).world.wrapping.trans hwraps.symm
    · exact (congrArg Wrapper.enabled (hplain.run actions).wrapper).trans hwraps.symm
  have hsilent : Silent begun.world.events :=
    System.silent_start instanceHandle requested settings table behaviour objects below
  have hunheard : wraps = false →
      (∀ p ∈ createdIn s.world.events, p.1.comesAlone = true) ∧
        ∀ p ∈ destroyedIn s.world.events, p.1 ≠ .descriptorSet := fun hwraps => by
    refine System.unheard_run (System.plain_start instanceHandle requested hwraps table behaviour
      objects below) (fun p hp => ?_) (fun p hp => ?_) actions
    · rw [hsilent.1] at hp
      cases hp
    · rw [hsilent.2] at hp
      cases hp
  have hcalls : ∀ k device, s.devices[k]? = some device → ∀ r out, r.awaits? = none →
      device.registry.chain.vetoes s.world.behaviour r.command = false →
      let o := ((Device.perform r out).run ⟨device, s.world⟩).1
      Announces (r.welcomed wraps device.own o) (r.departures device.own wraps o.1) s.world
        (s.act (.callDevice k r out)).world := by
    intro k device hdevice r out hr hveto o
    have hperform := Device.announces_perform (s := ⟨device, s.world⟩) hr hveto out
    dsimp only at hperform
    rw [System.act_of_device hdevice]
    rwa [henabled] at hperform
  refine ⟨fun k device hdevice r out hr hveto => ?_, fun type htype hends => ?_,
    fun hwraps => ?_⟩
  · have hannounces := hcalls k device hdevice r out hr hveto
    refine ⟨hannounces, fun hlt => ?_⟩
    rw [← henabled] at hannounces ⊢
    exact System.nodup_welcomed hs hannounces hlt
  · have hheralded : Heralded type begun.world.events :=
      .of_none fun p hp => absurd (hsilent.2 ▸ hp) List.not_mem_nil
    have hrun : wraps = true ∨ type.comesAlone = true → Heralded type s.world.events := fun h =>
      System.heralded_run hbegun h (fun _ hh => absurd hh List.not_mem_nil) hheralded hends
    cases hwraps : wraps with
    | true => exact hrun (.inl hwraps)
    | false =>
      cases type with
      | pipeline => exact absurd rfl (htype.resolve_left (hwraps ▸ Bool.false_ne_true))
      | descriptorSet => exact .of_none (hunheard hwraps).2
      | _ => exact hrun (.inr rfl)
  · have hnever : ∀ h, (.pipeline, h) ∉ createdIn s.world.events := fun h hh =>
      absurd ((hunheard hwraps).1 _ hh) Bool.false_ne_true
    refine ⟨hnever, fun k device hdevice h out hzero hveto => ?_⟩
    obtain ⟨es, hevents, hborn, hgone⟩ :=
      hcalls k device hdevice (.destroy .pipeline h) out rfl hveto
    have hnone : createdIn es = [] := hborn.trans (ite_self _)
    rw [hevents]
    refine Heralded.not_append (k := h) ?_ ?_
    · rw [hgone]
      exact mem_objectsOf.2 ⟨rfl, List.mem_singleton_self h, hzero⟩
    · rw [createdIn_append, hnone, List.append_nil]
      exact hnever h

/-- An application destroys the only pipeline that it has created.  The validation objects have
heard of the pipeline before if handles are wrapped, and otherwise they have not. -/
theorem pipeline_ends_with_and_without_wrapping :
    let creation : List (Action Scripted) :=
      [.createDevice 0xd000 0xe000 ⟨[.createGraphicsPipelines, .destroyPipeline]⟩
          [⟨0, .objectTracker⟩],
        .moveBelow fun s => { s with script := { handles := some [some 7] } },
        .callDevice 0 (.createGraphicsPipelines 0 (.elems [default])) { slots := some [0] }]
    let ending (h : Handle) : Action Scripted := .callDevice 0 (.destroy .pipeline h) {}
    let begun (settings : Settings) : System Scripted :=
      System.start 0xa000 0 settings .empty default [] {}
    let plain := Settings.default.switchOff .handleWrapping
    let wrapping := Settings.default
    (plain.handleWrapping = false ∧
        (begun plain).endsOwn .pipeline [] (creation ++ [ending 7]) = true ∧
        wrapping.handleWrapping = true ∧
        (begun wrapping).endsOwn .pipeline [] (creation ++ [ending (idAt 0)]) = true) ∧
      ¬ Heralded .pipeline ((begun plain).run (creation ++ [ending 7])).world.events ∧
      Heralded .pipeline ((begun wrapping).run (creation ++ [ending (idAt 0)])).world.events := by
  intro creation ending begun plain wrapping
  have hplain : plain.handleWrapping = false := by decide +kernel
  have hwrapping : wrapping.handleWrapping = true := by decide +kernel
  have hown : (begun plain).endsOwn .pipeline [] (creation ++ [ending 7]) = true := by
    decide +kernel
  have hown' : (begun wrapping).endsOwn .pipeline [] (creation ++ [ending (idAt 0)]) = true := by
    decide +kernel
  have hdevice : (((begun plain).run creation).devices[0]?).map (fun device =>
      device.registry.chain.vetoes ((begun plain).run creation).world.behaviour .destroyPipeline)
        = some false := by decide +kernel
  -- the run is not looked into any more
  clear_value creation plain wrapping
  refine ⟨⟨hplain, hown, hwrapping, hown'⟩, ?_, ?_⟩
  · obtain ⟨device, hdevice', hveto⟩ := Option.map_eq_some_iff.1 hdevice
    have hends := ((announcements_depend_on_wrapping 0xa000 0 plain .empty default []
      ({} : Scripted) creation).2.2 hplain).2 0 device hdevice' 7 {} (by decide) hveto
    have hrun : (begun plain).run (creation ++ [ending 7])
        = ((begun plain).run creation).act (ending 7) := List.foldl_append
    rwa [hrun]
  · exact (announcements_depend_on_wrapping 0xa000 0 wrapping .empty default []
      ({} : Scripted) (creation ++ [ending (idAt 0)])).2.1 .pipeline (.inl hwrapping) hown'

end HandleLayer
