import HandleLayer.Proofs.AtOnceOrLater
import HandleLayer.Proofs.ChainCopies
import HandleLayer.Proofs.FailedCalls
import HandleLayer.Proofs.HandingDown

/-!
# Batches of pipelines

Pipelines are created several at a time, from one description each.  A description may have
arrays, a chain and a library of its own, and the creation of one pipeline may fail beside
others that succeed.  Nothing of that gets mixed up: each description goes down as a copy of the
one at its place, and each slot of the application holds a surrogate for the pipeline at its
place.

## Main definitions

* `GraphicsInfo.IsCopy` and its like — what a description looks like when it goes down.
* `DeviceRequest.lowerBatch?` — a batch with its descriptions replaced one by one.
* `Wrapper.Publishes` — an array of surrogates for an array of handles.

## Main results

* `GraphicsInfo.isCopy_resolve` and its like — descriptions go down as copies.
* `Wrapper.publishes_wrapNewMany` — surrogates are published slot by slot.
* `pipelines_one_by_one` — **pipelines are created one by one.**
-/

namespace HandleLayer

variable {σ : Type}

/-! ### Copies of descriptions -/

/-- The copy of a description of a graphics pipeline: real handles, a copy of the chain, and
perhaps one or two states less. -/
structure GraphicsInfo.IsCopy (m : SurrogateMap) (g g' : GraphicsInfo) : Prop where
  stages : g.stages.Rel (Stage.IsCopy m) g'.stages
  colorBlend : g'.colorBlend = true → g.colorBlend = true
  depthStencil : g'.depthStencil = true → g.depthStencil = true
  layout : m.RealOf g.layout g'.layout
  renderPass : m.RealOf g.renderPass g'.renderPass
  subpass : g'.subpass = g.subpass
  base : m.RealOf g.base g'.base
  baseIndex : g'.baseIndex = g.baseIndex
  chain : g'.chain.IsCopyOf m g.chain.blocks

/-- The copy of a description of a compute pipeline. -/
structure ComputeInfo.IsCopy (m : SurrogateMap) (c c' : ComputeInfo) : Prop where
  stage : c.stage.IsCopy m c'.stage
  layout : m.RealOf c.layout c'.layout
  base : m.RealOf c.base c'.base
  baseIndex : c'.baseIndex = c.baseIndex
  chain : c'.chain.IsCopyOf m c.chain.blocks

/-- The copy of a description of a ray tracing pipeline; there is a library if there was one. -/
structure RayTracingInfo.IsCopy (m : SurrogateMap) (r r' : RayTracingInfo) : Prop where
  stages : r.stages.Rel (Stage.IsCopy m) r'.stages
  library : Option.Rel (AppArray.Rel m.RealOf) r.library r'.library
  layout : m.RealOf r.layout r'.layout
  base : m.RealOf r.base r'.base
  baseIndex : r'.baseIndex = r.baseIndex
  chain : r'.chain.IsCopyOf m r.chain.blocks

section Copies

variable {w : Wrapper} (hw : w.enabled = true)

include hw

theorem AppArray.rel_mapHandles (stages : AppArray Stage) :
    stages.Rel (Stage.IsCopy w.map) (stages.map (Stage.mapHandles w.unwrap)) :=
  (AppArray.rel_iff_eq_map (Stage.isCopy_iff hw)).2 rfl

theorem Chain.isCopyOf_copy (app : List Block) : (Chain.copy w app).value.IsCopyOf w.map app :=
  (Chain.copy_eq_iff hw app _).1 rfl

theorem GraphicsInfo.isCopy_resolve (known : Table Handle RenderPassUsage) (g : GraphicsInfo) :
    g.IsCopy w.map (g.resolve w known).value where
  stages := AppArray.rel_mapHandles hw _
  colorBlend := fun h => (Bool.and_eq_true_iff.1 h).1
  depthStencil := fun h => (Bool.and_eq_true_iff.1 h).1
  layout := realOf_unwrap hw _
  renderPass := realOf_unwrap hw _
  subpass := rfl
  base := realOf_unwrap hw _
  baseIndex := rfl
  chain := Chain.isCopyOf_copy hw _

theorem ComputeInfo.isCopy_resolve (c : ComputeInfo) : c.IsCopy w.map (c.resolve w).value where
  stage := (Stage.isCopy_iff hw _ _).2 rfl
  layout := realOf_unwrap hw _
  base := realOf_unwrap hw _
  baseIndex := rfl
  chain := Chain.isCopyOf_copy hw _

theorem RayTracingInfo.isCopy_resolve (r : RayTracingInfo) :
    r.IsCopy w.map (r.resolve w).value where
  stages := AppArray.rel_mapHandles hw _
  library := by
    show Option.Rel _ r.library (r.library.map (·.map w.unwrap))
    cases r.library with
    | none => exact .none
    | some pipelines => exact .some (AppArray.rel_unwrap hw pipelines)
  layout := realOf_unwrap hw _
  base := realOf_unwrap hw _
  baseIndex := rfl
  chain := Chain.isCopyOf_copy hw _

end Copies

/-! ### Requests for several pipelines -/

/-- A request for pipelines with every description replaced, and with every other handle; and
the number of pipelines. -/
def DeviceRequest.lowerBatch? (f : Handle → Handle) (graphics : GraphicsInfo → GraphicsInfo)
    (compute : ComputeInfo → ComputeInfo) (rayTracing : RayTracingInfo → RayTracingInfo) :
    DeviceRequest → Option (DeviceRequest × Nat)
  | createGraphicsPipelines cache infos =>
    some (createGraphicsPipelines (f cache) (infos.map graphics), infos.count)
  | createComputePipelines cache infos =>
    some (createComputePipelines (f cache) (infos.map compute), infos.count)
  | createRayTracingPipelines batch operation cache infos =>
    some (createRayTracingPipelines batch (f operation) (f cache) (infos.map rayTracing),
      infos.count)
  | _ => none

/-- A batch goes down description by description. -/
theorem DeviceRequest.resolve_of_lowerBatch? {w : Wrapper} (hw : w.enabled = true)
    (known : Shadows) {r down : DeviceRequest} {count : Nat}
    (hr : r.lowerBatch? w.unwrap (fun g => (g.resolve w known.renderPasses).value)
      (fun c => (c.resolve w).value) (fun i => (i.resolve w).value) = some (down, count)) :
    (r.resolve w known).value = down ∧ r.makesPipelines = true ∧ r.handleCount? = some count := by
  rw [resolve_of_enabled hw]
  cases r with
  | createGraphicsPipelines cache infos =>
    obtain ⟨rfl, rfl⟩ := Prod.mk.inj (Option.some.inj hr)
    exact ⟨congrArg (createGraphicsPipelines _) (value_resolveArray _ _), rfl, rfl⟩
  | createComputePipelines cache infos =>
    obtain ⟨rfl, rfl⟩ := Prod.mk.inj (Option.some.inj hr)
    exact ⟨congrArg (createComputePipelines _) (value_resolveArray _ _), rfl, rfl⟩
  | createRayTracingPipelines batch operation cache infos =>
    obtain ⟨rfl, rfl⟩ := Prod.mk.inj (Option.some.inj hr)
    exact ⟨congrArg (createRayTracingPipelines _ _ _) (value_resolveArray _ _), rfl, rfl⟩
  | _ => cases hr

/-! ### Surrogates for pipelines -/

/-- The array `hs` has fresh surrogates for the handles in the array `reals`, each at its place;
null handles stay null. -/
structure Wrapper.Publishes (w : Wrapper) (reals hs : List Handle) (w' : Wrapper) : Prop where
  null : List.Forall₂ (fun h real => h = 0 ↔ real = 0) hs reals
  real : List.Forall₂ (fun h real => w'.unwrap h = real) hs reals
  fresh : ∀ h ∈ hs, h ≠ 0 → ¬ w.map.Drawn h
  distinct : (hs.filter (· ≠ 0)).Nodup

/-- Handles are in their places if they are without those that are null. -/
theorem forall₂_of_filter {f : Handle → Handle} (hzero : f 0 = 0) {hs reals : List Handle}
    (hnull : List.Forall₂ (fun h real => h = 0 ↔ real = 0) hs reals)
    (hsome : (hs.filter (· ≠ 0)).map f = reals.filter (· ≠ 0)) :
    List.Forall₂ (fun h real => f h = real) hs reals := by
  induction hnull with
  | nil => exact .nil
  | @cons h real hs reals hfirst _ ih =>
    by_cases hh : h = 0
    · have hreal := hfirst.1 hh
      subst hh hreal
      rw [List.filter_cons_of_neg (by simp), List.filter_cons_of_neg (by simp)] at hsome
      exact .cons hzero (ih hsome)
    · have hreal : real ≠ 0 := fun heq => hh (hfirst.2 heq)
      rw [List.filter_cons_of_pos (by simpa using hh),
        List.filter_cons_of_pos (by simpa using hreal), List.map_cons] at hsome
      obtain ⟨heq, hrest⟩ := List.cons.inj hsome
      exact .cons heq (ih hrest)

/-- **Surrogates are published slot by slot**, before the counter comes round. -/
theorem Wrapper.publishes_wrapNewMany {w : Wrapper} (hw : w.enabled = true) (reals : List Handle)
    (hlimit : (w.wrapNewMany reals).2.map.drawn ≤ drawLimit) :
    w.Publishes reals (w.wrapNewMany reals).1 (w.wrapNewMany reals).2 := by
  have hfilter := wrapNewMany_filter hw reals
  have hmints : w.Mints (reals.filter (· ≠ 0)) ((w.wrapNewMany reals).1.filter (· ≠ 0))
      (w.wrapNewMany reals).2 := by
    have hnone : (0 : Handle) ∉ reals.filter (· ≠ 0) := by simp
    have hall := mints_wrapNewMany hw hnone (by rw [hfilter]; exact hlimit)
    rwa [hfilter] at hall
  have hnull := forall₂_wrapNewMany hw reals
  refine ⟨hnull, forall₂_of_filter (unwrap_zero _) hnull ?_, fun h hh hne => ?_, hmints.nodup⟩
  · -- what stands behind a surrogate that is live is what unwrapping comes to
    have hunwrap : ∀ h ∈ (w.wrapNewMany reals).1.filter (· ≠ 0),
        some ((w.wrapNewMany reals).2.unwrap h) = (w.wrapNewMany reals).2.map.unwrap h := by
      intro h hh
      obtain ⟨real, -, hreal⟩ : ∃ real ∈ reals.filter (· ≠ 0),
          some real = (w.wrapNewMany reals).2.map.unwrap h := by
        have hmem := List.mem_map_of_mem (f := (w.wrapNewMany reals).2.map.unwrap) hh
        rw [hmints.unwrap] at hmem
        exact List.mem_map.1 hmem
      have hne := hmints.ne_zero h hh
      rw [Wrapper.unwrap, if_neg (by simp [passes, hmints.enabled, hne]), ← hreal]
      rfl
    refine List.map_injective_iff.2 (fun _ _ => Option.some.inj) ?_
    rw [List.map_map, ← hmints.unwrap]
    exact List.map_congr_left hunwrap
  · exact hmints.fresh h (List.mem_filter.2 ⟨hh, by simpa using hne⟩)

namespace Device

variable [NextLayer σ] {r : DeviceRequest} {count : Nat} {out : Outputs}
  {slots reals : List Handle}

/-- A batch is handed down once. -/
theorem asksOnce_serve_of_makesPipelines (hr : r.makesPipelines = true)
    (hcount : r.handleCount? = some count) (hslots : out.slots = some slots)
    (hlength : slots.length = count) :
    AsksOnce r (some count) (serve r out : DeviceM σ (Result × Outputs)) := by
  have hroom : out.slots.map List.length = some count := by rw [hslots, ← hlength]; rfl
  cases r with
  | createGraphicsPipelines cache infos =>
    rw [← hroom]
    exact asksOnce_createPipelines _ _ out
  | createComputePipelines cache infos =>
    rw [← hroom]
    exact asksOnce_createPipelines _ _ out
  | createRayTracingPipelines batch operation cache infos =>
    obtain rfl := Option.some.inj hcount
    exact asksOnce_createRayTracingPipelines batch operation cache infos out
  | _ => cases hr

/-- What comes of the part of a call that can be skipped: the next layer has written every slot,
and each has a surrogate. -/
theorem run_serve_of_makesPipelines {s : Layer Tracked σ} (hs : s.world.wrapper.enabled = true)
    (hr : r.makesPipelines = true) (hcount : r.handleCount? = some count)
    (hslots : out.slots = some slots) (hlength : slots.length = count)
    (hreals : (answer r (some count) s).slots = reals.map some) (hwritten : reals.length = count)
    (hatOnce : ∀ operation, r.defers? = some operation →
      isDeferred (answer r (some count) s).result operation = false) :
    let u := (serve r out).run s
    u.1.1 = (answer r (some count) s).result ∧
      u.1.2.slots = some (s.world.wrapper.wrapNewMany reals).1 ∧
      u.2.world.wrapper = (s.world.wrapper.wrapNewMany reals).2 := by
  have hsame : slots.length = reals.length := hlength.trans hwritten.symm
  have hcreate : ∀ r' : DeviceRequest, (answer r' (some count) s).slots = reals.map some →
      let u := (createPipelines r' count out).run s
      u.1.1 = (answer r' (some count) s).result ∧
        u.1.2.slots = some (s.world.wrapper.wrapNewMany reals).1 ∧
        u.2.world.wrapper = (s.world.wrapper.wrapNewMany reals).2 := by
    intro r' hreals' u
    have hroom : out.slots.map List.length = some count := by rw [hslots, ← hlength]; rfl
    have hrun : u = (createPipelines r' count out).run s := rfl
    unfold createPipelines at hrun
    rw [run_bind_of (run_relay _ _ s), hroom] at hrun
    dsimp only at hrun
    rw [run_bind_of (run_wrapping _), if_pos ((congrArg _ (wrapper_sent _ _ s)).trans hs),
      run_bind_of (run_publishOutputs _ _ _), wrapper_sent, run_pure] at hrun
    generalize hwrite : (answer r' (some count) s).write _ out = written at hrun
    have harray : written.slots = some reals := by
      rw [← hwrite]
      show out.slots.map (overlay · (answer r' (some count) s).slots) = some reals
      rw [hslots, hreals', Option.map_some]
      exact congrArg some (overwrite_of_length_eq hsame)
    rw [hrun]
    refine ⟨rfl, Outputs.slots_publish_of_length harray hwritten, ?_⟩
    show ((sent r' (some count) s).world.wrapper.wrapNewMany (written.first count)).2 = _
    rw [Outputs.first_of_length_le harray (Nat.le_of_eq hwritten), wrapper_sent]
  cases r with
  | createGraphicsPipelines cache infos =>
    obtain rfl := Option.some.inj hcount
    exact hcreate _ hreals
  | createComputePipelines cache infos =>
    obtain rfl := Option.some.inj hcount
    exact hcreate _ hreals
  | createRayTracingPipelines batch operation cache infos =>
    obtain rfl := Option.some.inj hcount
    have hrun := @run_serve_of_not_isDeferred _ _ operation batch cache infos s hs out
      (hatOnce operation rfl)
    -- the array of the layer takes the place of the application's
    intro u
    have hu : u = _ := hrun
    generalize hwrite : Outputs.mk _ _ _ _ _ _ _ _ = written at hu
    have harray : written.slots = some reals := by
      rw [← hwrite]
      show out.slots.map (overwrite · (overlay (List.replicate infos.count 0)
        (answer (.createRayTracingPipelines batch operation cache infos) (some infos.count)
          s).slots)) = some reals
      have hproduced : overlay (List.replicate infos.count 0) (reals.map some) = reals :=
        overwrite_of_length_eq (List.length_replicate.trans hwritten.symm)
      rw [hslots, hreals, hproduced, Option.map_some, overwrite_of_length_eq hsame]
    rw [hu]
    refine ⟨rfl, Outputs.slots_publish_of_length harray hwritten, ?_⟩
    show ((sent _ (some infos.count) s).world.wrapper.wrapNewMany (written.first infos.count)).2 = _
    rw [Outputs.first_of_length_le harray (Nat.le_of_eq hwritten), wrapper_sent]
  | _ => cases hr

omit [NextLayer σ] in
/-- Nothing is concluded from a batch but what is kept of its storage. -/
theorem run_conclude_of_makesPipelines (hr : r.makesPipelines = true) (result : Result)
    (out : Outputs) (s : Layer Tracked σ) :
    ((conclude r result out).run s).2.world.wrapper = s.world.wrapper := by
  cases r with
  | createGraphicsPipelines => rfl
  | createComputePipelines => rfl
  | createRayTracingPipelines => rfl
  | _ => cases hr

end Device

/-- **Pipelines are created one by one.**  In a state in which handles are wrapped, each
description has a copy, which depends on nothing but it and the state.  A batch that is asked
for then, with an array to hold the pipelines, goes down as one call, unless it is skipped: with
the copies of its descriptions at their places, and with the real pipeline cache and deferred
operation.

Say that the next layer writes every slot, with a pipeline or with null, whatever its result is,
and that the work is not put off.  Then the application gets this result, and each slot holds a
surrogate for the pipeline at its place, or null where the next layer wrote null.  As long as
fewer ids are drawn than there are, the surrogates are all different and none was drawn
before. -/
theorem pipelines_one_by_one [NextLayer σ] {s : Layer Tracked σ}
    (hs : s.world.wrapper.enabled = true) :
    let w := s.world.wrapper
    ∃ (graphics : GraphicsInfo → GraphicsInfo) (compute : ComputeInfo → ComputeInfo)
        (rayTracing : RayTracingInfo → RayTracingInfo),
      ((∀ g, GraphicsInfo.IsCopy w.map g (graphics g)) ∧
        (∀ c, ComputeInfo.IsCopy w.map c (compute c)) ∧
        ∀ i, RayTracingInfo.IsCopy w.map i (rayTracing i)) ∧
      ∀ (r down : DeviceRequest) (count : Nat) (out : Outputs) (slots : List Handle),
        r.lowerBatch? w.unwrap graphics compute rayTracing = some (down, count) →
        out.slots = some slots → slots.length = count →
        s.object.registry.chain.vetoes s.world.behaviour r.command = false →
        s.object.table.provides r.command = true →
        let u := (Device.perform r out).run s
        let reply := Device.answer r (some count) s
        u.2.world.calls = s.world.calls ++ [⟨s.object.handle, .ofDevice down, some count⟩] ∧
        ∀ reals, reply.slots = reals.map some → reals.length = count →
          (∀ operation, r.defers? = some operation →
            Device.isDeferred reply.result operation = false) →
          u.2.world.wrapper.map.drawn ≤ drawLimit →
          u.1.1 = reply.result ∧
            ∃ hs, u.1.2.slots = some hs ∧ w.Publishes reals hs u.2.world.wrapper := by
  intro w
  refine ⟨fun g => (g.resolve w s.object.own.renderPasses).value, fun c => (c.resolve w).value,
    fun i => (i.resolve w).value, ⟨fun g => GraphicsInfo.isCopy_resolve hs _ g,
      fun c => ComputeInfo.isCopy_resolve hs c, fun i => RayTracingInfo.isCopy_resolve hs i⟩, ?_⟩
  intro r down count out slots hr hslots hlength hveto hprovides u reply
  obtain ⟨hdown, hmakes, hcount⟩ := DeviceRequest.resolve_of_lowerBatch? hs
    s.object.own.toShadows hr
  have hkeeps : ¬ s.object.own.Loses r := by
    cases r with
    | createGraphicsPipelines => exact not_false
    | createComputePipelines => exact not_false
    | createRayTracingPipelines => exact not_false
    | _ => cases hmakes
  refine ⟨?_, fun reals hreals hwritten hatOnce hlimit => ?_⟩
  · have hcalls := Device.calls_perform_of_asksOnce hs
      (Device.asksOnce_serve_of_makesPipelines hmakes hcount hslots hlength)
      ((s.object.own.prepared_eq_self_iff r).2 hkeeps) hveto hprovides
    rw [hdown] at hcalls
    exact hcalls
  · have hperform : u = _ := Device.run_perform_of_not_loses hkeeps hveto
    dsimp only at hperform
    -- what the validation objects are told does not matter to the next layer
    obtain ⟨hresult, hhandles, hwrapper⟩ := Device.run_serve_of_makesPipelines
      (s := s.see (toldBefore (s.object.registry.chain.intercepting r.command) r.command))
      hs hmakes hcount hslots hlength hreals hwritten hatOnce
    have hafter : u.2.world.wrapper = (w.wrapNewMany reals).2 := by
      rw [hperform]
      exact (Device.run_conclude_of_makesPipelines hmakes _ _ _).trans hwrapper
    rw [hafter] at hlimit ⊢
    refine ⟨?_, _, ?_, Wrapper.publishes_wrapNewMany hs reals hlimit⟩
    · rw [hperform]
      exact hresult
    · rw [hperform]
      exact hhandles

/-- Two ray tracing pipelines are asked for, the first with a library.  The creation fails, but
the second pipeline is there. -/
theorem second_of_two_pipelines :
    let info : RayTracingInfo :=
      { (default : RayTracingInfo) with
        stages := .elems [⟨1, idAt 0, some "main"⟩], library := some (.elems [idAt 1]) }
    let device : Dispatch Tracked :=
      { handle := 0xe000
        apiVersion := 0
        table := ⟨[.createRayTracingPipelinesKhr]⟩
        registry := ⟨.new default [], []⟩
        own := .empty }
    let world : World Scripted :=
      { wrapper := ((Wrapper.new true).wrapNewMany [0x11, 0x22, 0x33, 0x44]).2
        memory := .empty
        behaviour := default
        below :=
          { script := { result := some ⟨-1⟩, handles := some [some 0, some 0x77] } }
        trace := #[] }
    let s : Layer Tracked Scripted := ⟨device, world⟩
    let r : DeviceRequest :=
      .createRayTracingPipelines 0 (idAt 2) (idAt 3) (.elems [info, default])
    let out : Outputs := { slots := some [0, 0], chains := [[], []] }
    let u := (Device.perform r out).run s
    (s.world.wrapper.enabled = true ∧
        s.object.registry.chain.vetoes s.world.behaviour r.command = false ∧
        s.object.table.provides r.command = true ∧
        (Device.answer r (some 2) s).slots = [0, 0x77].map some ∧
        (∀ operation, r.defers? = some operation →
          Device.isDeferred (Device.answer r (some 2) s).result operation = false) ∧
        u.2.world.wrapper.map.drawn ≤ drawLimit) ∧
      (∃ first second, u.2.world.calls = [⟨0xe000, .ofDevice (.createRayTracingPipelines 0 0x33
            0x44 (.elems [first, second])), some 2⟩] ∧
        RayTracingInfo.IsCopy s.world.wrapper.map info first ∧
        RayTracingInfo.IsCopy s.world.wrapper.map default second) ∧
      u.1.1 = ⟨-1⟩ ∧
      ∃ h, u.1.2.slots = some [0, h] ∧ h ≠ 0 ∧ u.2.world.wrapper.unwrap h = 0x77 ∧
        ¬ s.world.wrapper.map.Drawn h := by
  intro info device world s r out u
  have hwrapping : s.world.wrapper.enabled = true := rfl
  have hveto : s.object.registry.chain.vetoes s.world.behaviour r.command = false := by
    decide +kernel
  have hprovides : s.object.table.provides r.command = true := by decide +kernel
  have hanswer : (Device.answer r (some 2) s).result = ⟨-1⟩ ∧
      (Device.answer r (some 2) s).slots = [0, 0x77].map some := by decide +kernel
  have hatOnce : ∀ operation, r.defers? = some operation →
      Device.isDeferred (Device.answer r (some 2) s).result operation = false := by
    intro operation _
    rw [hanswer.1]
    rfl
  have hlimit : u.2.world.wrapper.map.drawn ≤ drawLimit := by decide +kernel
  have hreal : s.world.wrapper.unwrap (idAt 2) = 0x33 ∧ s.world.wrapper.unwrap (idAt 3) = 0x44 := by
    decide +kernel
  obtain ⟨graphics, compute, rayTracing, ⟨-, -, hcopies⟩, hbatch⟩ := pipelines_one_by_one hwrapping
  obtain ⟨hcalls, hwritten⟩ := hbatch r _ 2 out [0, 0] rfl rfl rfl hveto hprovides
  obtain ⟨hresult, hs, hslots, hpublishes⟩ := hwritten [0, 0x77] hanswer.2 rfl hatOnce hlimit
  refine ⟨⟨hwrapping, hveto, hprovides, hanswer.2, hatOnce, hlimit⟩,
    ⟨rayTracing info, rayTracing default, ?_, hcopies info, hcopies default⟩,
    hresult.trans hanswer.1, ?_⟩
  · rw [hreal.1, hreal.2] at hcalls
    exact hcalls
  · -- the array has as many slots as the one of the next layer
    obtain ⟨first, rest, hfirst, hrest, rfl⟩ := List.forall₂_cons_right_iff.1 hpublishes.null
    obtain ⟨h, rest', hsecond, hnil, rfl⟩ := List.forall₂_cons_right_iff.1 hrest
    obtain rfl := List.forall₂_nil_right_iff.1 hnil
    obtain rfl : first = 0 := hfirst.2 rfl
    have hne : h ≠ 0 := fun hzero => absurd (hsecond.1 hzero) (by decide)
    have hunwrap := (List.forall₂_cons.1 (List.forall₂_cons.1 hpublishes.real).2).1
    exact ⟨h, hslots, hne, hunwrap, hpublishes.fresh h (by simp) hne⟩

end HandleLayer
