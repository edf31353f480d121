import HandleLayer.Proofs.Completion
import HandleLayer.Proofs.CopyBack
import HandleLayer.System

/-!
# Calls that fail

The next layer answers a call with an error and writes nothing, or does not have the entry
point at all.  Then nothing that the layer keeps has changed, nothing is announced, and the
output storage of the application is as it was.  The creation of pipelines is the exception:
the layer takes every handle that it finds in the output array for a pipeline of the next
layer, looks into an array of its own for ray tracing pipelines, and copies feedback back
that nobody has written.

## Main definitions

* `DeviceRequest.makesPipelines` — whether a request creates pipelines.
* `Chain.blanked` — a chain of the application after nothing was written into its copy.
* `DeviceRequest.leftover` — the output storage in which the layer looks for pipelines.
* `DeviceRequest.Spoils` — whether a request that fails has effects.

## Main results

* `Device.run_serve_of_failed`, `Device.run_serve_of_failed_pipelines` — calls that fail.
* `failed_calls` — **what a call that fails leaves behind.**
-/

namespace HandleLayer

variable {σ : Type}

/-! ### Copies that nothing was written into -/

namespace Block

/-- A copy that nothing was written into brings its blank storage back. -/
theorem copyBack_copy {f : Handle → Handle} {b c : Block} (hcopy : b.copy? f = some c) :
    c.copyBack b = b.blankFeedback := by
  have hc : b.blankFeedback.mapHandles f = c := by
    unfold copy? at hcopy
    split at hcopy
    · exact Option.some.inj hcopy
    · cases hcopy
  subst hc
  cases b with
  | feedback pipeline stages =>
    have hpipeline : (pipeline.map fun old => (pipeline.map fun _ => Feedback.blank).getD old)
        = pipeline.map fun _ => Feedback.blank := by
      cases pipeline <;> rfl
    have hstages : fillStages stages ((stages.map fun _ => Feedback.blank).toList.map some)
        = stages.map fun _ => Feedback.blank := by
      cases stages with
      | null n => rfl
      | elems xs => exact congrArg AppArray.elems (overwrite_of_length_eq (by simp))
    exact congrArg₂ feedback hpipeline hstages
  | _ => rfl

end Block

namespace Chain

/-- A chain of the application after nothing was written into its copy. -/
def blanked (app : List Block) : List Block :=
  (app.takeWhile Block.isKnown).map Block.blankFeedback ++ app.dropWhile Block.isKnown

theorem settle_copy (w : Wrapper) (app : List Block) :
    (copy w app).value.settle app = blanked app := by
  induction app with
  | nil => rfl
  | cons b rest ih =>
    cases hb : b.isKnown with
    | false =>
      have hcopy : (copy w (b :: rest)).value = ⟨[], b :: rest⟩ := by
        simp only [copy, copyPrefix, Block.copy?_of_unknown w.unwrap hb]
      rw [hcopy, blanked, List.takeWhile_cons_of_neg (by simp [hb]),
        List.dropWhile_cons_of_neg (by simp [hb])]
      rfl
    | true =>
      obtain ⟨c, hc, -⟩ := Block.exists_copy? w.unwrap hb
      have hcopy : (copy w (b :: rest)).value
          = ⟨c :: (copy w rest).value.copied, (copy w rest).value.shared⟩ := by
        simp only [copy, copyPrefix, hc]
      have hhead : b.fill c.outputs = b.blankFeedback := Block.copyBack_copy hc
      rw [hcopy, blanked, List.takeWhile_cons_of_pos hb, List.dropWhile_cons_of_pos hb,
        List.map_cons, List.cons_append]
      show b.fill c.outputs :: (copy w rest).value.settle rest = _
      rw [hhead, ih]
      rfl

/-- A chain stays as it is exactly when all the storage in the part that is copied is
blank. -/
theorem blanked_eq_self_iff {app : List Block} :
    blanked app = app ↔ ∀ b ∈ app.takeWhile Block.isKnown, b.blankFeedback = b := by
  have hsplit : blanked app = app ↔
      (app.takeWhile Block.isKnown).map Block.blankFeedback
        = (app.takeWhile Block.isKnown).map id := by
    rw [List.map_id]
    conv => lhs; rhs; rw [← app.takeWhile_append_dropWhile (p := Block.isKnown)]
    exact List.append_left_inj _
  rw [hsplit]
  exact List.map_inj_left

end Chain

/-! ### Answers with an error -/

/-- Whether a request creates pipelines. -/
def DeviceRequest.makesPipelines : DeviceRequest → Bool
  | createGraphicsPipelines .. | createComputePipelines .. | createRayTracingPipelines .. => true
  | _ => false

/-- An error with which nothing is written leaves the output storage alone, but for what
copies bring back. -/
theorem Reply.write_error (e : Result) (sent : List Chain) (out : Outputs) :
    ({ result := e } : Reply).write sent out
      = { out with chains := onto Chain.settle sent out.chains } := by
  have htools : onto ToolSlot.put [] = id := rfl
  simp [write, fillChains, htools]

theorem onto_map_map {α β γ : Type} (f : β → γ → γ) (g : α → β) (h : α → γ) (as : List α) :
    onto f (as.map g) (as.map h) = as.map fun a => f (g a) (h a) := by
  induction as with
  | nil => rfl
  | cons a as ih => rw [List.map_cons, List.map_cons, onto_cons, ih, List.map_cons]

namespace Device

variable {r : DeviceRequest} {out : Outputs} {e : Result} {s : Layer Tracked σ}

/-- Nothing was written into the copies, and their blank storage is copied back. -/
theorem settle_sent (hs : s.world.wrapper.enabled = true)
    (hchains : out.chains = r.chains.map Chain.blocks) :
    onto Chain.settle (r.resolve s.world.wrapper s.object.own.toShadows).value.chains out.chains
      = out.chains.map Chain.blanked := by
  have hresolve : r.resolve s.world.wrapper s.object.own.toShadows
      = r.resolveWrapped s.world.wrapper s.object.own.toShadows :=
    DeviceRequest.resolve_of_enabled hs _ r
  rw [hresolve, DeviceRequest.chains_resolveWrapped, hchains, onto_map_map, List.map_map]
  exact List.map_congr_left fun c _ => Chain.settle_copy s.world.wrapper c.blocks

variable [NextLayer σ]

theorem run_relay_of_failed (hs : s.world.wrapper.enabled = true)
    (hchains : out.chains = r.chains.map Chain.blocks)
    (hanswer : answer r (out.slots.map List.length) s = { result := e }) :
    (relay r out).run s
      = ((e, { out with chains := out.chains.map Chain.blanked }),
          sent r (out.slots.map List.length) s) := by
  rw [run_relay, hanswer, Reply.write_error, settle_sent hs hchains]

/-- A call without outputs in chains. -/
theorem run_relay_of_failed_plain (hs : s.world.wrapper.enabled = true) (hplain : r.chains = [])
    (hanswer : answer r (out.slots.map List.length) s = { result := e }) :
    (relay r out).run s = ((e, out), sent r (out.slots.map List.length) s) := by
  have hresolve : r.resolve s.world.wrapper s.object.own.toShadows
      = r.resolveWrapped s.world.wrapper s.object.own.toShadows :=
    DeviceRequest.resolve_of_enabled hs _ r
  have hsent : (r.resolve s.world.wrapper s.object.own.toShadows).value.chains = [] := by
    rw [hresolve, DeviceRequest.chains_resolveWrapped, hplain]
    rfl
  rw [run_relay, hanswer, Reply.write_error, hsent]
  rfl

/-- Asking for the result of an operation completes nothing without success. -/
theorem run_awaitOperation_of_failed {operation : Handle} (hsuccess : e ≠ .success)
    (hanswer : answer r none s = { result := e }) :
    (awaitOperation r operation out).run s = ((e, out), sent r none s) := by
  have hsettle : (sent r none s).settle operation e = sent r none s := if_neg hsuccess
  unfold awaitOperation
  rw [run_bind_of (run_send r none s), hanswer]
  show ((do
    completeOperation operation e
    return (e, out) : DeviceM σ (Result × Outputs)).run (sent r none s)) = _
  rw [run_bind_of (run_completeOperation operation e _), hsettle]
  rfl

theorem run_buildStructures_of_failed {operation : Handle} {infos : AppArray BuildInfo}
    {ranges : Option (List (List BuildRange))} (hdeferred : e ≠ .operationDeferred)
    (hanswer : answer (.buildStructures operation infos ranges) none s = { result := e }) :
    (buildStructures operation infos ranges out).run s
      = ((e, out), sent (.buildStructures operation infos ranges) none s) := by
  have hput : isDeferred e operation = false := by
    simp [isDeferred, hdeferred]
  unfold buildStructures
  rw [run_bind_of (run_send _ none s), hanswer]
  dsimp only
  rw [run_bind_of (run_wrapping _), hput, if_neg (by simp)]
  rfl

theorem run_getSwapchainImages_of_failed {swapchain : Handle}
    (hs : s.world.wrapper.enabled = true) (hreports : e.reports = false)
    (hanswer : answer (.getSwapchainImages swapchain) (out.slots.map List.length) s
      = { result := e }) :
    (getSwapchainImages swapchain out).run s
      = ((e, out), sent (.getSwapchainImages swapchain) (out.slots.map List.length) s) := by
  unfold getSwapchainImages
  rw [run_bind_of (run_relay_of_failed_plain hs rfl hanswer)]
  dsimp only
  split
  · rfl
  · rw [run_bind_of (run_wrapping _), hreports, if_neg (by simp)]
    rfl

/-- **A call that fails without pipelines in it** comes to nothing but the call to the next
layer. -/
theorem run_serve_of_failed (hs : s.world.wrapper.enabled = true)
    (hmakes : r.makesPipelines = false) (hresult : r.command.returnsResult = true)
    (hfailed : e.code < 0)
    (hanswer : answer r (r.roomBelow true out) s = { result := e }) :
    (serve r out).run s = ((e, out), sent r (r.roomBelow true out) s) := by
  -- the programs act on three results, and an error is none of them
  have hne : ∀ q : Result, 0 ≤ q.code → e ≠ q := by
    rintro q hq rfl
    exact absurd hfailed (Int.not_lt.2 hq)
  have hsuccess : e ≠ .success := hne _ (by decide)
  have hincomplete : e ≠ .incomplete := hne _ (by decide)
  have hdeferred : e ≠ .operationDeferred := hne _ (by decide)
  cases r with
  | create info =>
    show (createObject info out).run s = _
    unfold createObject
    rw [run_bind_of (run_relay_of_failed_plain hs rfl hanswer)]
    dsimp only
    split
    · rw [if_neg hsuccess]
      rfl
    · rfl
  | releaseConfiguration h =>
    show (releaseConfiguration h out).run s = _
    unfold releaseConfiguration
    rw [run_bind_of (run_relay_of_failed_plain hs rfl hanswer)]
    dsimp only
    rw [if_neg hsuccess]
    rfl
  | resetDescriptorPool pool flags =>
    show (resetDescriptorPool pool flags out).run s = _
    unfold resetDescriptorPool
    rw [run_bind_of (run_relay_of_failed_plain hs rfl hanswer)]
    dsimp only
    rw [if_neg hsuccess]
    rfl
  | allocateSets pool layouts =>
    show (allocateSets pool layouts out).run s = _
    unfold allocateSets
    rw [run_bind_of (run_relay_of_failed_plain hs rfl hanswer), run_bind_of (run_wrapping _)]
    rw [if_neg fun h => hsuccess h.2]
    rfl
  | freeSets pool sets =>
    show (freeSets pool sets out).run s = _
    unfold freeSets
    rw [run_bind_of (run_relay_of_failed_plain hs rfl hanswer), run_bind_of (run_wrapping _)]
    dsimp only
    rw [if_neg fun h => hsuccess h.2]
    rfl
  | allocateCommandBuffers pool level count =>
    show (allocateCommandBuffers pool level count out).run s = _
    unfold allocateCommandBuffers
    rw [run_bind_of (run_relay_of_failed_plain hs rfl hanswer)]
    dsimp only
    rw [if_neg fun h => hsuccess h.1]
    rfl
  | getSwapchainImages swapchain =>
    exact run_getSwapchainImages_of_failed hs (by simp [Result.reports, hsuccess, hincomplete])
      hanswer
  | joinOperation operation => exact run_awaitOperation_of_failed hsuccess hanswer
  | queryOperation operation => exact run_awaitOperation_of_failed hsuccess hanswer
  | buildStructures operation infos ranges => exact run_buildStructures_of_failed hdeferred hanswer
  -- the others make pipelines, have no result, or only hand the request down
  | createGraphicsPipelines | createComputePipelines | createRayTracingPipelines => cases hmakes
  | destroy kind h => cases kind <;> cases hresult
  | exportMetalObjects chain => cases hresult
  | freeCommandBuffers pool buffers => cases hresult
  | _ => exact run_relay_of_failed_plain hs rfl hanswer

end Device

/-! ### Pipelines that nobody has created -/

/-- The output storage in which the layer looks for pipelines after an error with which
nothing was written.  Ray tracing pipelines are looked for in an array of null handles. -/
def DeviceRequest.leftover (r : DeviceRequest) (out : Outputs) : Outputs :=
  match r with
  | createRayTracingPipelines _ _ _ infos =>
    { out with
      slots := out.slots.map (overwrite · (List.replicate infos.count 0))
      chains := out.chains.map Chain.blanked }
  | _ => { out with chains := out.chains.map Chain.blanked }

namespace Device

variable {r : DeviceRequest} {out : Outputs} {e : Result} {s : Layer Tracked σ}

variable [NextLayer σ]

/-- **Pipelines are looked for even after an error.** -/
theorem run_serve_of_failed_pipelines (hs : s.world.wrapper.enabled = true)
    (hmakes : r.makesPipelines = true) (hfailed : e.code < 0)
    (hchains : out.chains = r.chains.map Chain.blocks)
    (hanswer : answer r (r.roomBelow true out) s = { result := e }) :
    (serve r out).run s
      = ((e, (r.leftover out).publish s.world.wrapper (r.handleCount?.getD 0)),
          (sent r (r.roomBelow true out) s).publish
            ((r.leftover out).first (r.handleCount?.getD 0))) := by
  have hdeferred : e ≠ .operationDeferred := by
    rintro rfl
    cases hfailed
  -- graphics and compute pipelines are looked for in the array of the application
  have hcreate : ∀ (r' : DeviceRequest) (count : Nat), out.chains = r'.chains.map Chain.blocks →
      answer r' (out.slots.map List.length) s = { result := e } →
      (createPipelines r' count out).run s
        = ((e, ({ out with chains := out.chains.map Chain.blanked } : Outputs).publish
              s.world.wrapper count),
            (sent r' (out.slots.map List.length) s).publish (out.first count)) := by
    intro r' count hchains' hanswer'
    have hsent : (sent r' (out.slots.map List.length) s).world.wrapper.enabled = true := by
      rw [wrapper_sent, hs]
    unfold createPipelines
    rw [run_bind_of (run_relay_of_failed hs hchains' hanswer')]
    dsimp only
    rw [run_bind_of (run_wrapping _), if_pos hsent, run_bind_of (run_publishOutputs _ _ _),
      wrapper_sent]
    rfl
  cases r with
  | createGraphicsPipelines cache infos => exact hcreate _ _ hchains hanswer
  | createComputePipelines cache infos => exact hcreate _ _ hchains hanswer
  | createRayTracingPipelines batch operation cache infos =>
    have hput : isDeferred e operation = false := by
      simp [isDeferred, hdeferred]
    have hanswer' : answer (.createRayTracingPipelines batch operation cache infos)
        (some infos.count) s = { result := e } := hanswer
    have hsettle := settle_sent hs hchains
    show (createRayTracingPipelines batch operation cache infos out).run s = _
    unfold createRayTracingPipelines createRayTracingWrapped
    rw [run_bind_of (run_wrapping s), if_pos hs, run_bind_of (run_send _ _ s)]
    dsimp only
    -- nothing was written over the null handles in the array of the layer
    rw [hanswer', hput, if_neg Bool.false_ne_true, overlay_nil_right]
    dsimp only [Reply.fillChains]
    rw [onto_nil, hsettle, run_bind_of (run_publishOutputs _ _ _), wrapper_sent]
    rfl
  | _ => cases hmakes

end Device

/-! ### What fails with effects -/

namespace Wrapper

theorem wrapNewMany_of_null (w : Wrapper) {reals : List Handle} (h : ∀ real ∈ reals, real = 0) :
    w.wrapNewMany reals = (reals, w) := by
  induction reals with
  | nil => rfl
  | cons real reals ih =>
    obtain rfl : real = 0 := h real List.mem_cons_self
    rw [wrapNewMany, wrapNew_zero]
    dsimp only
    rw [ih fun real hreal => h real (List.mem_cons_of_mem 0 hreal)]

/-- **A handle that is not null draws a surrogate.** -/
theorem drawn_lt_wrapNewMany {w : Wrapper} (hw : w.enabled = true) {reals : List Handle}
    {real : Handle} (hmem : real ∈ reals) (hreal : real ≠ 0) :
    w.map.drawn < (w.wrapNewMany reals).2.map.drawn := by
  induction reals generalizing w with
  | nil => cases hmem
  | cons first reals ih =>
    rw [wrapNewMany]
    dsimp only
    by_cases hfirst : first = 0
    · subst hfirst
      rw [wrapNew_zero]
      rcases List.mem_cons.1 hmem with heq | hmem
      · exact absurd heq hreal
      · exact ih hw hmem
    · obtain ⟨n, hn, -, hwrap⟩ := exists_wrapNew_eq hw hfirst
      rw [hwrap]
      have hle := (Fares.wrapNewMany (w := { w with map := w.map.enter n first }) hw reals).drawn_le
      have hdrawn : n + 1 ≤ _ := hle
      exact Nat.lt_of_lt_of_le (by omega) hdrawn

theorem wrapNewMany_snd_eq_iff {w : Wrapper} (hw : w.enabled = true) {reals : List Handle} :
    (w.wrapNewMany reals).2 = w ↔ ∀ real ∈ reals, real = 0 := by
  constructor
  · intro hsame real hmem
    by_contra hreal
    have hlt := drawn_lt_wrapNewMany hw hmem hreal
    rw [hsame] at hlt
    exact Nat.lt_irrefl _ hlt
  · intro hnull
    rw [wrapNewMany_of_null w hnull]

end Wrapper

/-- Null handles are copied over null handles. -/
theorem overwrite_null {slots : List Handle} {n : Nat} (h : ∀ x ∈ slots.take n, x = 0) :
    overwrite slots (List.replicate n 0) = slots := by
  have hnull : slots.take n = List.replicate (slots.take n).length 0 :=
    List.eq_replicate_iff.2 ⟨rfl, h⟩
  calc overwrite slots (List.replicate n 0)
      = overwrite slots (List.replicate (slots.take n).length 0) := by
        rw [← overwrite_take_length, List.take_replicate, List.length_take, Nat.min_comm]
    _ = overwrite slots (slots.take n) := by rw [← hnull]
    _ = slots := overwrite_take slots n

theorem map_blanked_eq_self_iff {chains : List (List Block)} :
    chains.map Chain.blanked = chains
      ↔ ∀ app ∈ chains, ∀ b ∈ app.takeWhile Block.isKnown, b.blankFeedback = b := by
  conv => lhs; rhs; rw [← List.map_id chains]
  rw [List.map_inj_left]
  simp only [id, Chain.blanked_eq_self_iff]

namespace DeviceRequest

/-- Whether a request has effects although it fails: it creates pipelines, and there is a
handle in one of their slots before the call, or feedback in a part of a chain that is
copied. -/
def Spoils (r : DeviceRequest) (out : Outputs) : Prop :=
  r.makesPipelines = true ∧ ((∃ h ∈ out.first (r.handleCount?.getD 0), h ≠ 0) ∨
    ∃ app ∈ out.chains, ∃ b ∈ app.takeWhile Block.isKnown, b.blankFeedback ≠ b)

theorem leftover_chains (r : DeviceRequest) (out : Outputs) :
    (r.leftover out).chains = out.chains.map Chain.blanked := by
  unfold leftover
  split <;> rfl

theorem leftover_eq_self (r : DeviceRequest) {out : Outputs}
    (hnull : ∀ h ∈ out.first (r.handleCount?.getD 0), h = 0)
    (hchains : out.chains.map Chain.blanked = out.chains) : r.leftover out = out := by
  unfold leftover
  split
  · next batch operation cache infos =>
    have hslots : out.slots.map (overwrite · (List.replicate infos.count 0)) = out.slots := by
      cases hfound : out.slots with
      | none => rfl
      | some slots =>
        unfold Outputs.first at hnull
        rw [hfound] at hnull
        exact congrArg some (overwrite_null hnull)
    rw [hslots, hchains]
  · rw [hchains]

end DeviceRequest

/-- Null handles are published as they are. -/
theorem Outputs.publish_eq_self (w : Wrapper) {count : Nat} {out : Outputs}
    (hnull : ∀ h ∈ out.first count, h = 0) : out.publish w count = out := by
  unfold publish
  rw [Wrapper.wrapNewMany_of_null w hnull, present_first]

/-- **The surrogates and the output storage stay as they are exactly where nothing is
spoilt.** -/
theorem DeviceRequest.publish_leftover_iff {r : DeviceRequest} (hmakes : r.makesPipelines = true)
    (out : Outputs) {w : Wrapper} (hw : w.enabled = true) :
    ((w.wrapNewMany ((r.leftover out).first (r.handleCount?.getD 0))).2 = w ∧
        (r.leftover out).publish w (r.handleCount?.getD 0) = out)
      ↔ ¬ r.Spoils out := by
  constructor
  · rintro ⟨hwrapper, hout⟩ ⟨-, hspoils⟩
    -- all slots are null where the layer looks, so that it leaves there what it finds
    have hnull := (Wrapper.wrapNewMany_snd_eq_iff hw).1 hwrapper
    rw [Outputs.publish_eq_self w hnull] at hout
    rw [hout] at hnull
    rcases hspoils with ⟨h, hmem, hzero⟩ | ⟨app, happ, b, hb, hblank⟩
    · exact hzero (hnull h hmem)
    · have hchains := r.leftover_chains out
      rw [hout] at hchains
      exact hblank (map_blanked_eq_self_iff.1 hchains.symm app happ b hb)
  · intro hspoils
    have hnull : ∀ h ∈ out.first (r.handleCount?.getD 0), h = 0 := by
      intro h hmem
      by_contra hzero
      exact hspoils ⟨hmakes, .inl ⟨h, hmem, hzero⟩⟩
    have hchains : out.chains.map Chain.blanked = out.chains := by
      refine map_blanked_eq_self_iff.2 fun app happ b hb => ?_
      by_contra hblank
      exact hspoils ⟨hmakes, .inr ⟨app, happ, b, hb, hblank⟩⟩
    rw [r.leftover_eq_self hnull hchains]
    exact ⟨(Wrapper.wrapNewMany_snd_eq_iff hw).2 hnull, Outputs.publish_eq_self w hnull⟩

/-! ### Whole calls -/

namespace Device

variable [NextLayer σ] {r : DeviceRequest} {out : Outputs} {e : Result} {s : Layer Tracked σ}

/-- A request with a result loses nothing before the validation objects are asked. -/
theorem not_loses_of_returnsResult (t : Tracked) (hresult : r.command.returnsResult = true) :
    ¬ t.Loses r := by
  cases r with
  | destroy kind h => cases kind <;> cases hresult
  | _ => exact not_false

/-- The answer to a call that the next layer does not have the entry point for. -/
theorem answer_of_missing (hmissing : s.object.table.provides r.command = false)
    (hresult : r.command.returnsResult = true) (room : Option Nat) :
    answer r room s = { result := .extensionNotPresent } := by
  have hprovides : s.object.table.provides
      (Request.ofDevice (r.resolve s.world.wrapper s.object.own.toShadows).value).command
        = false := by
    show s.object.table.provides (r.resolve _ _).value.command = false
    rw [r.command_resolve, hmissing]
  unfold answer Layer.reply
  rw [if_neg (by simp [hprovides])]
  show Reply.missing (r.resolve _ _).value.command = _
  rw [r.command_resolve, Reply.missing, if_pos hresult]

/-- The part of a call that can be skipped, when the next layer answers it with an error. -/
theorem exists_run_serve_of_failed (hs : s.world.wrapper.enabled = true)
    (hresult : r.command.returnsResult = true) (hfailed : e.code < 0)
    (hchains : out.chains = r.chains.map Chain.blocks)
    (hanswer : answer r (r.roomBelow true out) s = { result := e }) :
    ∃ out' t es, (serve r out).run s = ((e, out'), t) ∧ t.object = s.object ∧
      t.world.events = s.world.events ++ es ∧ destroyedIn es = [] ∧
      ((t.world.wrapper = s.world.wrapper ∧ createdIn es = [] ∧ out' = out) ↔ ¬ r.Spoils out) := by
  have hobject := object_sent r (r.roomBelow true out) s
  obtain ⟨hwrapper, es, hevents, hsilent⟩ := quiet_sent r (r.roomBelow true out) s
  cases hmakes : r.makesPipelines with
  | false =>
    have hrun := run_serve_of_failed hs hmakes hresult hfailed hanswer
    refine ⟨out, _, es, hrun, hobject, hevents, hsilent.2, ?_⟩
    refine iff_of_true ⟨hwrapper, hsilent.1, rfl⟩ ?_
    rintro ⟨htrue, -⟩
    rw [hmakes] at htrue
    cases htrue
  | true =>
    have hrun := run_serve_of_failed_pipelines hs hmakes hfailed hchains hanswer
    have hspoils := r.publish_leftover_iff hmakes out hs
    generalize sent r (r.roomBelow true out) s = u at *
    refine ⟨_, _, es ++ births u.object.registry.chain.objects .pipeline
      (u.world.wrapper.wrapNewMany ((r.leftover out).first (r.handleCount?.getD 0))).1, hrun,
      hobject, ?_, ?_, ?_⟩
    · exact append_events hevents (World.events_see _ _)
    · rw [destroyedIn_append, hsilent.2, destroyedIn_births]
      rfl
    · show (u.world.wrapper.wrapNewMany _).2 = _ ∧ _ ↔ _
      rw [hwrapper]
      constructor
      · rintro ⟨hsame, -, hout⟩
        exact hspoils.1 ⟨hsame, hout⟩
      · intro hnot
        obtain ⟨hsame, hout⟩ := hspoils.2 hnot
        have hnull := (Wrapper.wrapNewMany_snd_eq_iff hs).1 hsame
        refine ⟨hsame, ?_, hout⟩
        -- null handles are not announced
        rw [createdIn_append, hsilent.1, createdIn_births,
          Wrapper.wrapNewMany_of_null _ hnull, List.filter_eq_nil_iff.2 (by simpa using hnull)]
        rfl

/-- A whole call that the next layer answers with an error. -/
theorem exists_run_perform_of_failed (hs : s.world.wrapper.enabled = true)
    (hresult : r.command.returnsResult = true) (hfailed : e.code < 0)
    (hveto : s.object.registry.chain.vetoes s.world.behaviour r.command = false)
    (hchains : out.chains = r.chains.map Chain.blocks)
    (hanswer : answer r (r.roomBelow true out) s = { result := e }) :
    ∃ out' t es, (perform r out).run s = ((e, out'), t) ∧ t.object = s.object ∧
      t.world.events = s.world.events ++ es ∧ destroyedIn es = [] ∧
      ((t.world.wrapper = s.world.wrapper ∧ createdIn es = [] ∧ out' = out) ↔ ¬ r.Spoils out) := by
  have hsuccess : e ≠ .success := by
    rintro rfl
    cases hfailed
  have hperform : (perform r out).run s = _ :=
    run_perform_of_not_loses (not_loses_of_returnsResult s.object.own hresult) hveto
  dsimp only at hperform
  generalize s.object.registry.chain.intercepting r.command = objects at hperform
  obtain ⟨out', t, es, hserve, hobject, hevents, hdestroyed, hiff⟩ :=
    exists_run_serve_of_failed (s := s.see (toldBefore objects r.command)) hs hresult hfailed
      hchains hanswer
  rw [hserve] at hperform
  dsimp only at hperform
  rw [run_conclude_of_ne_success hsuccess] at hperform
  -- the objects are told before and after, which announces nothing
  refine ⟨out', _, toldBefore objects r.command ++ es
    ++ toldEach objects (.after r.command e), hperform, hobject, ?_, ?_, ?_⟩
  · exact append_events (append_events (World.events_see _ s.world) hevents)
      (World.events_see _ t.world)
  · rw [destroyedIn_append, destroyedIn_append, hdestroyed, (silent_toldBefore _ _).2,
      (silent_toldEach _ _).2]
    rfl
  · rw [createdIn_append, createdIn_append, (silent_toldBefore _ _).1, (silent_toldEach _ _).1,
      List.nil_append, List.append_nil]
    exact hiff

end Device

/-- **What a call that fails leaves behind.**  A next layer without the entry point answers
with an error and writes nothing.  After any such answer the application gets the error, the
instance and all devices are as they were, with everything that is tracked or put off, and
nothing is announced as destroyed.

The surrogates and the output storage are as they were, too, and nothing is announced at all,
exactly unless pipelines are asked for with a handle in one of their slots or with feedback in
a part of a chain that is copied. -/
theorem failed_calls [NextLayer σ] {s : System σ} {k : Nat} {device : Dispatch Tracked}
    {r : DeviceRequest} (hdevice : s.devices[k]? = some device)
    (hwrapping : s.world.wrapper.enabled = true) (hresult : r.command.returnsResult = true) :
    (device.table.provides r.command = false →
      ∀ room, Device.answer r room ⟨device, s.world⟩ = { result := .extensionNotPresent }) ∧
    ∀ (e : Result) (out : Outputs), e.code < 0 →
      device.registry.chain.vetoes s.world.behaviour r.command = false →
      out.chains = r.chains.map Chain.blocks →
      Device.answer r (r.roomBelow true out) ⟨device, s.world⟩ = { result := e } →
      ∃ out' s' es, s.onDevice k (Device.perform r out) = some ((e, out'), s') ∧
        s'.host = s.host ∧ s'.devices = s.devices ∧
        s'.world.events = s.world.events ++ es ∧ destroyedIn es = [] ∧
        ((s'.world.wrapper = s.world.wrapper ∧ createdIn es = [] ∧ out' = out)
          ↔ ¬ r.Spoils out) := by
  refine ⟨fun hmissing room => Device.answer_of_missing hmissing hresult room, ?_⟩
  intro e out hfailed hveto hchains hanswer
  obtain ⟨out', t, es, hrun, hobject, hevents, hdestroyed, hiff⟩ :=
    Device.exists_run_perform_of_failed (s := ⟨device, s.world⟩) hwrapping hresult hfailed hveto
      hchains hanswer
  have hcall : s.onDevice k (Device.perform r out)
      = some ((e, out'), { s with devices := s.devices.set k t.object, world := t.world }) := by
    unfold System.onDevice
    rw [hdevice, Option.map_some, hrun]
  refine ⟨out', _, es, hcall, rfl, ?_, hevents, hdestroyed, hiff⟩
  -- the device is put back in its place unchanged
  obtain ⟨hk, heq⟩ := List.getElem?_eq_some_iff.1 hdevice
  have hsame : t.object = device := hobject
  show s.devices.set k t.object = s.devices
  rw [hsame, ← heq, List.set_getElem_self hk]

/-- The next layer cannot create graphics pipelines; a handle that was left in the output
array is taken for one all the same. -/
theorem failed_creation_takes_a_stale_handle :
    let device : Dispatch Tracked :=
      { handle := 0xc000
        apiVersion := 0
        table := .empty
        registry := ⟨.new default [⟨0, .coreValidation⟩], []⟩
        own := .empty }
    let s : System Scripted :=
      { host := ⟨0xa000, 0, .empty, default, default⟩
        devices := [device]
        world :=
          { wrapper := .new true
            memory := .empty
            behaviour := ⟨fun _ _ => true, fun _ _ => false⟩
            below := {}
            trace := #[] } }
    let r : DeviceRequest := .createGraphicsPipelines 0 (.elems [default])
    let stale : Outputs := { slots := some [0x77], chains := [[]] }
    s.devices[0]? = some device ∧ s.world.wrapper.enabled = true ∧
      r.command.returnsResult = true ∧ r.Spoils stale ∧
      ∃ out' s' es,
        s.onDevice 0 (Device.perform r stale) = some ((.extensionNotPresent, out'), s') ∧
          s'.devices = s.devices ∧
          ¬ (s'.world.wrapper = s.world.wrapper ∧ createdIn es = [] ∧ out' = stale) := by
  intro device s r stale
  have hdevice : s.devices[0]? = some device := rfl
  have hspoils : r.Spoils stale := ⟨rfl, .inl ⟨0x77, List.mem_singleton.2 rfl, by decide⟩⟩
  obtain ⟨hmissing, hfailed⟩ := failed_calls (r := r) hdevice rfl rfl
  have hanswer := hmissing (by decide +kernel) (r.roomBelow true stale)
  obtain ⟨out', s', es, hcall, -, hdevices, -, -, hiff⟩ :=
    hfailed .extensionNotPresent stale (by decide) (by decide +kernel) rfl hanswer
  refine ⟨hdevice, rfl, rfl, hspoils, out', s', es, hcall, hdevices, ?_⟩
  intro hsame
  exact hiff.1 hsame hspoils

end HandleLayer
