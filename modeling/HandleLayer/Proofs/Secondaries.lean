import HandleLayer.Proofs.HandingDown
import HandleLayer.Proofs.Memos
import HandleLayer.Proofs.UnwrappedRuns
import HandleLayer.Scripted

/-!
# Secondary command buffers along runs

What a secondary command buffer inherits from its primary has handles in it, and these are
replaced when the command buffer is begun.  For a primary one the same pointer may hold anything,
so that nothing may be read there.  The begin call itself does not say which of the two it is
about, and so the layer remembers the secondary ones when they are allocated.

Command buffers are not wrapped.  The next layer may use the handle of one again, at the other
level or for another pool, as soon as it was freed or its pool was destroyed.  What is remembered
follows the last allocation nevertheless.

## Main definitions

* `Happening.Allocates`, `Happening.Frees`, `Happening.EndsPool` — the calls by which command
  buffers come and go.
* `Allocated` — the allocation that a command buffer goes back to, after a run.
* `FreshBuffers` — the next layer returns no command buffer that is still allocated.

## Main results

* `Device.secondaries_perform` — what one call does to what is remembered.
* `System.KnowsSecondaries.run` — what is remembered goes back to the last allocation.
* `Device.calls_beginCommandBuffer` — what goes down when a command buffer is begun.
* `inheritance_rewritten_for_secondaries` — **what is inherited is replaced for secondary
  command buffers, and for no other ones.**
-/

namespace HandleLayer

variable {σ : Type}

/-! ### What one call does -/

/-- What is remembered of secondary command buffers after a call with this outcome: from which
pool each one was allocated. -/
def DeviceRequest.secondaries (r : DeviceRequest) (o : Outcome) (known : Table Handle Handle) :
    Table Handle Handle :=
  match r with
  | destroy .commandPool pool => known.filter fun _ p => p ≠ pool
  | allocateCommandBuffers pool level count =>
    if o.1 = .success ∧ level = .secondary then
      (o.2.first count.toNat).foldl (fun t b => t.insert b pool) known
    else known
  | freeCommandBuffers _ buffers =>
    if o.1 = .validationFailed then known else buffers.toList.foldl Table.erase known
  | _ => known

namespace DeviceRequest

variable (o : Outcome) (known : Table Handle Handle) (pool b : Handle)

/-- The entries of a pool go with it. -/
theorem get?_secondaries_destroy :
    ((destroy .commandPool pool).secondaries o known).get? b
      = (known.get? b).filter fun p => p ≠ pool :=
  Table.get?_filter _ _ _

/-- Only an allocation at the secondary level is remembered, and only of what it has returned. -/
theorem get?_secondaries_allocate (level : BufferLevel) (count : UInt32) :
    ((allocateCommandBuffers pool level count).secondaries o known).get? b
      = if (o.1 = .success ∧ b ∈ o.2.first count.toNat) ∧ level = .secondary then
          some pool
        else known.get? b := by
  dsimp only [secondaries]
  split
  · next hsecondary =>
    refine (Tracked.get?_addSecondaries { Tracked.empty with secondaries := known } pool b
      _).trans ?_
    simp only [hsecondary, true_and, and_true]
  · next hother =>
    rw [if_neg]
    exact fun h => hother ⟨h.1.1, h.2⟩

/-- What was freed is forgotten, unless the call was skipped. -/
theorem get?_secondaries_free (buffers : AppArray Handle) :
    ((freeCommandBuffers pool buffers).secondaries o known).get? b
      = if o.1 ≠ .validationFailed ∧ b ∈ buffers.toList then none else known.get? b := by
  dsimp only [secondaries]
  split
  · next hskipped => rw [if_neg fun h => h.1 hskipped]
  · next hmade =>
    refine (Tracked.get?_removeSecondaries { Tracked.empty with secondaries := known } b
      buffers.toList).trans ?_
    simp only [ne_eq, hmade, not_false_eq_true, true_and]

end DeviceRequest

namespace Device

variable [NextLayer σ]

/-- Secondary command buffers are remembered once they were allocated. -/
theorem secondaries_allocateCommandBuffers (pool : Handle) (level : BufferLevel) (count : UInt32)
    (out : Outputs) (s : Layer Tracked σ) :
    let u := (allocateCommandBuffers pool level count out).run s
    u.2.object.own.secondaries
      = (DeviceRequest.allocateCommandBuffers pool level count).secondaries u.1
          s.object.own.secondaries := by
  unfold allocateCommandBuffers
  rw [run_bind_of (run_relay _ _ s)]
  dsimp only
  split
  · next hsecondary =>
    refine (congrArg (fun t : Tracked => (Tracked.addSecondaries pool _ t).secondaries)
      (congrArg Dispatch.own (object_sent _ _ s))).trans ?_
    exact (if_pos hsecondary).symm
  · next hother =>
    refine (congrArg (fun d : Dispatch Tracked => d.own.secondaries) (object_sent _ _ s)).trans ?_
    exact (if_neg hother).symm

/-- Command buffers are no secondary ones any more once they were freed. -/
theorem secondaries_freeCommandBuffers (pool : Handle) (buffers : AppArray Handle)
    (s : Layer Tracked σ) :
    ((freeCommandBuffers pool buffers).run s).2.object.own.secondaries
      = buffers.toList.foldl Table.erase s.object.own.secondaries := by
  unfold freeCommandBuffers
  rw [run_bind_of (run_send _ _ s)]
  exact congrArg (fun d : Dispatch Tracked => (d.own.removeSecondaries buffers.toList).secondaries)
    (object_sent _ _ s)

/-- A call that does its work between the notices to the validation objects does to the secondary
command buffers what its entry point does, and nothing if it is skipped. -/
theorem secondaries_perform_of_serve {r : DeviceRequest} {out : Outputs} {s : Layer Tracked σ}
    (hkeeps : ¬ s.object.own.Loses r)
    (hskipped : ∀ o known, o.1 = .validationFailed → r.secondaries o known = known)
    (hconclude : ∀ result out' (t : Layer Tracked σ), ((conclude r result out').run t).2 = t)
    (hserve : ∀ t : Layer Tracked σ, let u := (serve r out).run t
      u.2.object.own.secondaries = r.secondaries u.1 t.object.own.secondaries) :
    let u := (perform r out).run s
    u.2.object.own.secondaries = r.secondaries u.1 s.object.own.secondaries := by
  intro u
  cases hveto : s.object.registry.chain.vetoes s.world.behaviour r.command with
  | true =>
    have hu : u = _ := run_perform_of_vetoes hveto
    have hkept : s.object.own.prepared r = s.object.own :=
      (s.object.own.prepared_eq_self_iff r).2 hkeeps
    rw [hu, hskipped _ _ rfl, hkept]
    rfl
  | false =>
    have hu : u = _ := run_perform_of_not_loses hkeeps hveto
    rw [hu]
    dsimp only
    rw [hconclude]
    exact hserve _

/-- **What one call does to what is remembered of secondary command buffers**, whether handles
are wrapped or not. -/
theorem secondaries_perform (r : DeviceRequest) (out : Outputs) (s : Layer Tracked σ) :
    let u := (perform r out).run s
    u.2.object.own.secondaries = r.secondaries u.1 s.object.own.secondaries := by
  intro u
  have hother : (∀ f, r.Edits f → ∀ t : Tracked, (f t).secondaries = t.secondaries) →
      u.2.object.own.secondaries = s.object.own.secondaries :=
    (edited_perform r out s).preserves (π := fun t : Tracked => t.secondaries)
  cases r with
  | destroy kind h =>
    cases kind with
    | commandPool => exact congrArg (fun t : Tracked => t.secondaries) (own_perform_destroy rfl out)
    | _ =>
      refine hother fun f hf t => ?_
      cases hf with
      | receive hr => cases hr
      | complete hr => cases hr
      | _ => rfl
  | allocateCommandBuffers pool level count =>
    refine secondaries_perform_of_serve not_false (fun o known hskipped => ?_) (fun _ _ _ => rfl)
      (secondaries_allocateCommandBuffers pool level count out)
    exact if_neg fun h => absurd (h.1.symm.trans hskipped) (by decide)
  | freeCommandBuffers pool buffers =>
    exact secondaries_perform_of_serve not_false (fun o known hskipped => if_pos hskipped)
      (fun _ _ _ => rfl) (secondaries_freeCommandBuffers pool buffers)
  | create info =>
    refine hother fun f hf t => ?_
    cases hf with
    | remember info h => cases info <;> rfl
    | receive hr => cases hr
    | complete hr => cases hr
  | _ =>
    refine hother fun f hf t => ?_
    cases hf <;> rfl

end Device

/-! ### Where command buffers come from -/

namespace Happening

/-- Whether a call has allocated the command buffer `b` of the device from a pool, at this
level. -/
def Allocates (x : Happening) (k : Nat) (b pool : Handle) (level : BufferLevel) : Prop :=
  x.device = k ∧ ∃ count, x.request = .allocateCommandBuffers pool level count ∧
    x.outcome.1 = .success ∧ b ∈ x.outcome.2.first count.toNat

/-- Whether a call that was not skipped has freed the command buffer `b` of the device.  Such a
call reports nothing, and its outcome only says whether it was skipped. -/
def Frees (x : Happening) (k : Nat) (b : Handle) : Prop :=
  x.device = k ∧ ∃ pool buffers, x.request = .freeCommandBuffers pool buffers ∧
    x.outcome.1 ≠ .validationFailed ∧ b ∈ buffers.toList

/-- Whether a call names a command pool of the device to be destroyed, skipped or not. -/
def EndsPool (x : Happening) (k : Nat) (pool : Handle) : Prop :=
  x.device = k ∧ x.request = .destroy .commandPool pool

/-- Whether a command buffer does not go back to an earlier allocation from the pool any more
after a call. -/
def Releases (x : Happening) (k : Nat) (b pool : Handle) : Prop :=
  x.Frees k b ∨ x.EndsPool k pool ∨ ∃ pool' level, x.Allocates k b pool' level

end Happening

/-- The command buffer `b` goes back to an allocation from this pool and at this level: no later
call has returned it, freed it or named the pool to be destroyed. -/
def Allocated (H : List Happening) (k : Nat) (b pool : Handle) (level : BufferLevel) : Prop :=
  ∃ before x after, H = before ++ x :: after ∧ x.Allocates k b pool level ∧
    ∀ y ∈ after, ¬ y.Releases k b pool

/-- The next layer returns no command buffer that is still allocated. -/
def FreshBuffers (H : List Happening) : Prop :=
  ∀ before x after, H = before ++ x :: after → ∀ k b pool level, x.Allocates k b pool level →
    ∀ pool' level', ¬ Allocated before k b pool' level'

section Allocated

variable {H H' : List Happening} {x : Happening} {k : Nat} {b pool : Handle} {level : BufferLevel}

theorem not_allocated_nil : ¬ Allocated [] k b pool level := not_lasts_nil

theorem allocated_concat : Allocated (H ++ [x]) k b pool level
    ↔ x.Allocates k b pool level ∨ ¬ x.Releases k b pool ∧ Allocated H k b pool level :=
  lasts_concat

theorem FreshBuffers.of_append (h : FreshBuffers (H ++ H')) : FreshBuffers H := by
  rintro before x after rfl
  exact h before x (after ++ H') (by simp)

theorem freshBuffers_nil : FreshBuffers [] := by
  intro before x after hH
  cases before <;> cases hH

theorem freshBuffers_concat : FreshBuffers (H ++ [x])
    ↔ FreshBuffers H ∧ ∀ k b pool level, x.Allocates k b pool level →
        ∀ pool' level', ¬ Allocated H k b pool' level' := by
  refine ⟨fun h => ⟨h.of_append, h H x [] rfl⟩, fun ⟨hinit, hlast⟩ before y after hH => ?_⟩
  rcases after.eq_nil_or_concat with rfl | ⟨after, z, rfl⟩
  · obtain ⟨rfl, hy⟩ := List.append_inj' hH rfl
    obtain rfl : x = y := List.head_eq_of_cons_eq hy
    exact hlast
  · rw [List.concat_eq_append, ← List.cons_append, ← List.append_assoc] at hH
    exact hinit before y after (List.append_inj' hH rfl).1

/-- **One call through the lookup of one command buffer**, if it returns none that is
remembered. -/
theorem DeviceRequest.get?_secondaries {known : Table Handle Handle} (hk : x.device = k)
    (hfresh : ∀ pool level, x.Allocates k b pool level → known.get? b = none) :
    (x.request.secondaries x.outcome known).get? b = some pool
      ↔ x.Allocates k b pool .secondary ∨ ¬ x.Releases k b pool ∧ known.get? b = some pool := by
  subst hk
  obtain ⟨device, request, o⟩ := x
  cases request with
  | destroy kind h =>
    cases kind with
    | commandPool =>
      have hends : Happening.EndsPool ⟨device, .destroy .commandPool h, o⟩ device pool ↔ pool = h :=
        ⟨fun hends => (DeviceRequest.destroy.inj hends.2).2.symm, fun heq => ⟨rfl, by rw [heq]⟩⟩
      rw [get?_secondaries_destroy, Option.filter_eq_some_iff]
      simp [Happening.Releases, hends, Happening.Allocates, Happening.Frees, and_comm]
    | _ =>
      simp [secondaries, Happening.Allocates, Happening.Releases, Happening.Frees,
        Happening.EndsPool]
  | allocateCommandBuffers pool' level count =>
    rw [get?_secondaries_allocate]
    by_cases hreturned : o.1 = .success ∧ b ∈ o.2.first count.toNat
    · -- what is returned was not remembered, at whatever level it comes back
      have hnone : known.get? b = none := hfresh pool' level ⟨rfl, count, rfl, hreturned⟩
      rw [hnone]
      simp [Happening.Allocates, hreturned, and_comm]
    · have hallocates : ∀ p l, ¬ Happening.Allocates
          ⟨device, .allocateCommandBuffers pool' level count, o⟩ device b p l := by
        rintro p l ⟨-, count', hrequest, hsuccess, hmem⟩
        cases hrequest
        exact hreturned ⟨hsuccess, hmem⟩
      rw [if_neg fun h => hreturned h.1]
      simp [Happening.Releases, hallocates, Happening.Frees, Happening.EndsPool]
  | freeCommandBuffers pool' buffers =>
    rw [get?_secondaries_free]
    by_cases hfreed : o.1 ≠ .validationFailed ∧ b ∈ buffers.toList
    · rw [if_pos hfreed]
      simp [Happening.Allocates, Happening.Releases, Happening.Frees, hfreed]
    · rw [if_neg hfreed]
      simp [Happening.Allocates, Happening.Releases, Happening.Frees, Happening.EndsPool, hfreed]
  | _ =>
    simp [secondaries, Happening.Allocates, Happening.Releases, Happening.Frees,
      Happening.EndsPool]

end Allocated

/-! ### What is remembered along runs -/

namespace System

/-- What is remembered of secondary command buffers goes back to their allocation. -/
def KnowsSecondaries (s : System σ) (H : List Happening) : Prop :=
  ∀ k b pool, (s.kept k).secondaries.get? b = some pool ↔ Allocated H k b pool .secondary

namespace KnowsSecondaries

variable [NextLayer σ] {s : System σ} {H : List Happening}

/-- **Whatever happens keeps the invariant**, as long as no command buffer is returned that is
still allocated. -/
theorem act (hs : s.KnowsSecondaries H) (a : Action σ)
    (hfresh : FreshBuffers (H ++ (s.happening? a).toList)) :
    (s.act a).KnowsSecondaries (H ++ (s.happening? a).toList) := by
  intro k b pool
  cases hx : s.happening? a with
  | none =>
    have hkept : (s.act a).kept k = s.kept k := kept_act_of_other fun x hx' => by
      rw [hx] at hx'
      cases hx'
    rw [hkept, Option.toList_none, List.append_nil]
    exact hs k b pool
  | some x =>
    rw [hx, Option.toList_some] at hfresh
    rw [Option.toList_some, allocated_concat, ← hs k b pool]
    by_cases hk : x.device = k
    · obtain ⟨device, out, rfl, hdevice, houtcome⟩ := exists_of_happening? hx
      have htable : ((s.act (.callDevice x.device x.request out)).kept k).secondaries
          = x.request.secondaries x.outcome (s.kept k).secondaries := by
        rw [← hk, kept_of_call hdevice, kept_of_device hdevice, houtcome]
        exact Device.secondaries_perform x.request out ⟨device, s.world⟩
      rw [htable]
      refine DeviceRequest.get?_secondaries hk fun pool level hallocates => ?_
      refine Option.eq_none_iff_forall_ne_some.2 fun pool' hknown => ?_
      exact (freshBuffers_concat.1 hfresh).2 k b pool level hallocates pool' .secondary
        ((hs k b pool').1 hknown)
    · -- a call to another device says nothing about this one
      have hkept : (s.act a).kept k = s.kept k := kept_act_of_other fun y hy => by
        rw [hx] at hy
        exact Option.some.inj hy ▸ hk
      have hallocates : ∀ pool level, ¬ x.Allocates k b pool level := fun _ _ h => hk h.1
      have hreleases : ¬ x.Releases k b pool := by
        rintro (hfrees | hends | ⟨pool', level, h⟩)
        · exact hk hfrees.1
        · exact hk hends.1
        · exact hallocates pool' level h
      rw [hkept]
      simp only [hallocates, hreleases, false_or, not_false_eq_true, true_and]

theorem run (hs : s.KnowsSecondaries H) (actions : List (Action σ))
    (hfresh : FreshBuffers (H ++ s.history actions)) :
    (s.run actions).KnowsSecondaries (H ++ s.history actions) := by
  induction actions generalizing s H with
  | nil =>
    rw [history, List.append_nil]
    exact hs
  | cons a actions ih =>
    rw [history, ← List.append_assoc] at hfresh ⊢
    exact ih (hs.act a hfresh.of_append) hfresh

end KnowsSecondaries

/-- In the beginning there are no devices, and nothing is remembered. -/
theorem knowsSecondaries_start (instanceHandle : Handle) (requested : ApiVersion)
    (settings : Settings) (table : EntryTable) (behaviour : Behaviour)
    (objects : List ValidationObject) (below : σ) :
    (start instanceHandle requested settings table behaviour objects
      below).KnowsSecondaries [] := by
  intro k b pool
  refine iff_of_false (fun hknown => ?_) not_allocated_nil
  have hnone : (Table.empty : Table Handle Handle).get? b = some pool := hknown
  rw [Table.get?_empty] at hnone
  cases hnone

/-- Whether handles are wrapped is settled in the beginning. -/
theorem enabled_run [NextLayer σ] (instanceHandle : Handle) (requested : ApiVersion)
    (settings : Settings) (table : EntryTable) (behaviour : Behaviour)
    (objects : List ValidationObject) (below : σ) (actions : List (Action σ)) :
    ((start instanceHandle requested settings table behaviour objects below).run
      actions).world.wrapper.enabled = settings.handleWrapping := by
  cases hwrapping : settings.handleWrapping with
  | true =>
    exact ((sound_start instanceHandle requested hwrapping table behaviour objects below).run
      actions).world.wrapping
  | false =>
    rw [((plain_start instanceHandle requested hwrapping table behaviour objects below).run
      actions).wrapper]
    rfl

end System

/-! ### What goes down -/

/-- **What goes down when a command buffer is begun**: what it inherits has the real handles in
it if handles are wrapped and the command buffer is remembered as a secondary one. -/
theorem Device.calls_beginCommandBuffer [NextLayer σ] {s : Layer Tracked σ} (b : Handle)
    (flags : UInt32) (inheritance : Option Inheritance) (out : Outputs)
    (hveto : s.object.registry.chain.vetoes s.world.behaviour .beginCommandBuffer = false)
    (hprovides : s.object.table.provides .beginCommandBuffer = true) :
    ((perform (.beginCommandBuffer b flags inheritance) out).run s).2.world.calls
      = s.world.calls ++ [⟨s.object.handle, .ofDevice (.beginCommandBuffer b flags
          (if s.world.wrapper.enabled ∧ s.object.own.secondaries.contains b then
            inheritance.map (Inheritance.mapHandles s.world.wrapper.unwrap)
          else inheritance)), out.slots.map List.length⟩] := by
  have hresolve : ((DeviceRequest.beginCommandBuffer b flags inheritance).resolve s.world.wrapper
      s.object.own.toShadows).value = .beginCommandBuffer b flags
        (if s.world.wrapper.enabled ∧ s.object.own.secondaries.contains b then
          inheritance.map (Inheritance.mapHandles s.world.wrapper.unwrap)
        else inheritance) := by
    cases henabled : s.world.wrapper.enabled with
    | true =>
      rw [DeviceRequest.resolve_of_enabled henabled]
      simp only [true_and]
      rfl
    | false =>
      rw [DeviceRequest.resolve_of_disabled henabled]
      simp
  have hasked : ((perform (.beginCommandBuffer b flags inheritance) out).run s).2.world.calls = _ :=
    asked_perform
      (fun t _ => congrArg (fun u : (Result × Outputs) × Layer Tracked σ => u.2.world.calls)
        (run_relay (.beginCommandBuffer b flags inheritance) out t)) rfl hveto
  rw [hresolve] at hasked
  exact hasked.trans (congrArg (s.world.calls ++ ·) (if_pos hprovides))

/-- **What is inherited is replaced for secondary command buffers, and for no other ones.**  Take
a system, with or without wrapping, and anything that may happen to it, as long as the next layer
returns no command buffer that is still allocated.

The layer then remembers a command buffer for a pool if and only if it goes back to an allocation
from this pool at the secondary level: no later call has returned the command buffer again, freed
it without being skipped, or named the pool to be destroyed.  When a command buffer is begun and
the call is not skipped, it is begun below with the same flags.  Where handles are wrapped, the
command buffer is remembered and there is something that it inherits, the render pass and the
framebuffer of that go down as the real ones, and nothing else of it is changed; in all other
cases what the application passes goes down as it is. -/
theorem inheritance_rewritten_for_secondaries [NextLayer σ] (instanceHandle : Handle)
    (requested : ApiVersion) (settings : Settings) (table : EntryTable) (behaviour : Behaviour)
    (objects : List ValidationObject) (below : σ) (actions : List (Action σ))
    (hfresh : FreshBuffers ((System.start instanceHandle requested settings table behaviour objects
      below).history actions)) :
    let start := System.start instanceHandle requested settings table behaviour objects below
    let s := start.run actions
    let H := start.history actions
    (∀ k b pool, (s.kept k).secondaries.get? b = some pool ↔ Allocated H k b pool .secondary) ∧
    ∀ (k : Nat) (device : Dispatch Tracked) (b : Handle) (flags : UInt32)
        (inheritance : Option Inheritance) (out : Outputs), s.devices[k]? = some device →
      device.registry.chain.vetoes s.world.behaviour .beginCommandBuffer = false →
      device.table.provides .beginCommandBuffer = true →
      ∃ inheritance', (s.act (.callDevice k (.beginCommandBuffer b flags inheritance)
            out)).world.calls
          = s.world.calls ++ [⟨device.handle,
              .ofDevice (.beginCommandBuffer b flags inheritance'), out.slots.map List.length⟩] ∧
        (∀ i, inheritance = some i → settings.handleWrapping = true →
          (∃ pool, Allocated H k b pool .secondary) →
          inheritance' = some { i with
            renderPass := s.world.wrapper.unwrap i.renderPass
            framebuffer := s.world.wrapper.unwrap i.framebuffer }) ∧
        (inheritance = none ∨ settings.handleWrapping = false ∨
            (∀ pool, ¬ Allocated H k b pool .secondary) →
          inheritance' = inheritance) := by
  intro start s H
  have hknows : s.KnowsSecondaries H :=
    (System.knowsSecondaries_start instanceHandle requested settings table behaviour objects
      below).run actions hfresh
  refine ⟨hknows, fun k device b flags inheritance out hdevice hveto hprovides => ?_⟩
  have henabled : s.world.wrapper.enabled = settings.handleWrapping :=
    System.enabled_run instanceHandle requested settings table behaviour objects below actions
  have hremembered : device.own.secondaries.contains b = true
      ↔ ∃ pool, Allocated H k b pool .secondary := by
    rw [Table.contains_iff, ← System.kept_of_device hdevice]
    exact exists_congr fun pool => hknows k b pool
  rw [System.act_of_device hdevice]
  refine ⟨_, Device.calls_beginCommandBuffer b flags inheritance out hveto hprovides, ?_, ?_⟩
  · rintro i rfl hwrapping hsecondary
    rw [if_pos ⟨henabled.trans hwrapping, hremembered.2 hsecondary⟩]
    rfl
  · rintro (rfl | hplain | hnone)
    · rw [Option.map_none, ite_self]
    · rw [if_neg]
      rintro ⟨hwrapping, -⟩
      rw [henabled, hplain] at hwrapping
      cases hwrapping
    · rw [if_neg]
      rintro ⟨-, hcontains⟩
      obtain ⟨pool, hsecondary⟩ := hremembered.1 hcontains
      exact hnone pool hsecondary

/-- Two secondary command buffers, of which one was freed and then came back as a primary one. -/
theorem begun_after_reuse_of_a_handle :
    let actions : List (Action Scripted) :=
      [.createDevice 0xd000 0xe000 ⟨[.createCommandPool, .createRenderPass2,
          .allocateCommandBuffers, .freeCommandBuffers, .beginCommandBuffer]⟩ [],
        .callDevice 0 (.create .commandPool) { slots := some [0] },
        .callDevice 0 (.create (.renderPass .second (.elems []))) { slots := some [0] },
        .moveBelow fun b => { b with script := { handles := some [some 0x11, some 0x12] } },
        .callDevice 0 (.allocateCommandBuffers (idAt 0) .secondary 2) { slots := some [0, 0] },
        .callDevice 0 (.freeCommandBuffers (idAt 0) (.elems [0x11])) {},
        .moveBelow fun b => { b with script := { handles := some [some 0x11] } },
        .callDevice 0 (.allocateCommandBuffers (idAt 0) .primary 1) { slots := some [0] }]
    let start := System.start 0xa000 0 .default .empty default [] ({} : Scripted)
    let s := start.run actions
    let inherited : Inheritance := ⟨idAt 1, 0, 3⟩
    (FreshBuffers (start.history actions) ∧
      (s.devices[0]?).map (fun device =>
        (device.handle, device.registry.chain.vetoes s.world.behaviour .beginCommandBuffer,
          device.table.provides .beginCommandBuffer)) = some (0xe000, false, true)) ∧
      (s.kept 0).secondaries.get? 0x12 = some (idAt 0) ∧
      (s.kept 0).secondaries.get? 0x11 = none ∧
      (s.act (.callDevice 0 (.beginCommandBuffer 0x12 0 (some inherited)) {})).world.calls
        = s.world.calls ++ [⟨0xe000, .ofDevice (.beginCommandBuffer 0x12 0
            (some { inherited with renderPass := 0x100010 })), none⟩] ∧
      (s.act (.callDevice 0 (.beginCommandBuffer 0x11 0 (some inherited)) {})).world.calls
        = s.world.calls ++ [⟨0xe000, .ofDevice (.beginCommandBuffer 0x11 0 (some inherited)),
            none⟩] := by
  intro actions start s inherited
  have hdevice : (s.devices[0]?).map (fun device =>
      (device.handle, device.registry.chain.vetoes s.world.behaviour .beginCommandBuffer,
        device.table.provides .beginCommandBuffer)) = some (0xe000, false, true) := by
    decide +kernel
  have hH : start.history actions
      = [] ++ [⟨0, .create .commandPool, .success, { slots := some [idAt 0] }⟩]
          ++ [⟨0, .create (.renderPass .second (.elems [])), .success, { slots := some [idAt 1] }⟩]
          ++ [⟨0, .allocateCommandBuffers (idAt 0) .secondary 2, .success,
            { slots := some [0x11, 0x12] }⟩]
          ++ [⟨0, .freeCommandBuffers (idAt 0) (.elems [0x11]), .success, {}⟩]
          ++ [⟨0, .allocateCommandBuffers (idAt 0) .primary 1, .success,
            { slots := some [0x11] }⟩] := by decide +kernel
  have hreal : s.world.wrapper.unwrap (idAt 1) = 0x100010 := by decide +kernel
  have hnull : s.world.wrapper.unwrap 0 = 0 := Wrapper.unwrap_zero _
  have hmade : Result.success ≠ .validationFailed := by decide
  -- the run is not looked into any more
  clear_value actions
  have hfresh : FreshBuffers (start.history actions) := by
    rw [hH]
    simp only [freshBuffers_concat, freshBuffers_nil, allocated_concat, not_allocated_nil]
    simp [Happening.Allocates, Happening.Releases, Happening.Frees, Happening.EndsPool,
      Outputs.first, hmade]
  have hkept : Allocated (start.history actions) 0 0x12 (idAt 0) .secondary := by
    rw [hH]
    simp only [allocated_concat, not_allocated_nil]
    simp [Happening.Allocates, Happening.Releases, Happening.Frees, Happening.EndsPool,
      Outputs.first]
  have hgone : ∀ pool, ¬ Allocated (start.history actions) 0 0x11 pool .secondary := by
    rw [hH]
    simp only [allocated_concat, not_allocated_nil]
    simp [Happening.Allocates, Happening.Releases, Happening.Frees, Happening.EndsPool,
      Outputs.first, hmade]
  obtain ⟨hknows, hbegins⟩ := inheritance_rewritten_for_secondaries 0xa000 0 .default .empty
    default [] ({} : Scripted) actions hfresh
  obtain ⟨device, hdevice', hfacts⟩ := Option.map_eq_some_iff.1 hdevice
  obtain ⟨hhandle, hrest⟩ := Prod.mk.inj hfacts
  obtain ⟨hveto, hprovides⟩ := Prod.mk.inj hrest
  refine ⟨⟨hfresh, hdevice⟩, (hknows 0 0x12 (idAt 0)).2 hkept, ?_, ?_, ?_⟩
  · exact Option.eq_none_iff_forall_ne_some.2 fun pool hknown =>
      hgone pool ((hknows 0 0x11 pool).1 hknown)
  · obtain ⟨inheritance', hcalls, hrewritten, -⟩ :=
      hbegins 0 device 0x12 0 (some inherited) {} hdevice' hveto hprovides
    have hcopy : inheritance' = some { inherited with renderPass := 0x100010 } :=
      (hrewritten inherited rfl rfl ⟨_, hkept⟩).trans
        (congrArg₂ (fun p f => some (⟨p, f, 3⟩ : Inheritance)) hreal hnull)
    rw [hcopy, hhandle] at hcalls
    exact hcalls
  · obtain ⟨inheritance', hcalls, -, hplain⟩ :=
      hbegins 0 device 0x11 0 (some inherited) {} hdevice' hveto hprovides
    rw [hplain (.inr (.inr hgone)), hhandle] at hcalls
    exact hcalls

end HandleLayer
