import Mathlib.Data.List.TakeWhile
import HandleLayer.Proofs.RenderPassRuns

/-!
# Dynamic rendering

The chain of a graphics pipeline may say which formats it renders to.  These formats decide
which of its states are kept, whatever the render pass is — as far as the layer finds them: it
reads the copies only, so that a block of unknown layout hides the formats behind it from the
layer.  They go down nevertheless, and the attachments of the render pass decide.

## Main definitions

* `Block.rendering?` — the formats of dynamic rendering in a block.
* `GraphicsInfo.DecidedByFormats` — which states are kept, when formats decide.

## Main results

* `Chain.rendering?_of_known`, `Chain.rendering?_of_cut` — the formats that are found, and the
  ones that are hidden.
* `formats_decide_states` — **formats decide which states of a pipeline are handed down, unless
  a block of unknown layout hides them.**
-/

namespace HandleLayer

variable {σ : Type}

/-! ### Formats in chains -/

/-- The formats of dynamic rendering in a block: the number of colour attachments, and the
depth and stencil formats. -/
def Block.rendering? : Block → Option (UInt32 × Nat × Int × Int)
  | rendering viewMask colors depth stencil => some (viewMask, colors.count, depth, stencil)
  | _ => none

theorem Block.rendering?_eq_none {b : Block}
    (hb : ∀ viewMask colors depth stencil, b ≠ .rendering viewMask colors depth stencil) :
    b.rendering? = none := by
  cases b with
  | rendering viewMask colors depth stencil => exact absurd rfl (hb _ _ _ _)
  | _ => rfl

namespace Chain

/-- The formats are found in front of the first block of unknown layout. -/
theorem rendering?_copy_eq (w : Wrapper) (app : List Block) :
    (copy w app).value.rendering? = (app.takeWhile Block.isKnown).findSome? Block.rendering? := by
  have hcopied : (copy w app).value.rendering?
      = (copy w app).value.copied.findSome? Block.rendering? := by
    unfold rendering?
    congr 1
  rw [hcopied, copied_copy, List.findSome?_map]
  congr 1
  funext b
  cases b <;> rfl

variable {before : List Block}

theorem findSome?_rendering?_eq_none
    (hfirst : ∀ viewMask colors depth stencil, .rendering viewMask colors depth stencil ∉ before)
    (p : Block → Bool) : (before.takeWhile p).findSome? Block.rendering? = none := by
  refine List.findSome?_eq_none_iff.2 fun b hb => Block.rendering?_eq_none ?_
  rintro viewMask colors depth stencil rfl
  exact hfirst _ _ _ _ ((List.takeWhile_prefix p).subset hb)

variable (hfirst : ∀ viewMask colors depth stencil,
    .rendering viewMask colors depth stencil ∉ before)
  (w : Wrapper) (viewMask : UInt32) (colors : AppArray Int) (depth stencil : Int)
  (after : List Block)

include hfirst

/-- Formats behind blocks of known layout are found. -/
theorem rendering?_of_known (hknown : ∀ b ∈ before, b.isKnown = true) :
    (copy w (before ++ .rendering viewMask colors depth stencil :: after)).value.rendering?
      = some (viewMask, colors.count, depth, stencil) := by
  have hnone := findSome?_rendering?_eq_none hfirst Block.isKnown
  rw [List.takeWhile_eq_self_iff.2 hknown] at hnone
  rw [rendering?_copy_eq, List.takeWhile_append_of_pos hknown, List.findSome?_append, hnone]
  rfl

/-- Formats behind a block of unknown layout are hidden. -/
theorem rendering?_of_cut (hcut : ∃ b ∈ before, b.isKnown = false) :
    (copy w (before ++ .rendering viewMask colors depth stencil :: after)).value.rendering?
      = none := by
  obtain ⟨b, hb, hunknown⟩ := hcut
  have hshort : (before.takeWhile Block.isKnown).length ≠ before.length := by
    intro hlength
    have hall := List.takeWhile_eq_self_iff.1
      ((List.takeWhile_prefix Block.isKnown).eq_of_length hlength)
    rw [hall b hb] at hunknown
    cases hunknown
  rw [rendering?_copy_eq, List.takeWhile_append, if_neg hshort]
  exact findSome?_rendering?_eq_none hfirst Block.isKnown

omit hfirst in
/-- Formats go down wherever they are. -/
theorem getElem?_blocks_copy_rendering :
    (copy w (before ++ .rendering viewMask colors depth stencil :: after)).value.blocks[
        before.length]? = some (.rendering viewMask colors depth stencil) := by
  rw [getElem?_blocks_copy, List.getElem?_append_right (Nat.le_refl _), Nat.sub_self]
  refine congrArg some ?_
  split <;> rfl

end Chain

/-! ### Which states are kept -/

/-- Whether formats of dynamic rendering decide which states of `g` are kept in `g'`. -/
def GraphicsInfo.DecidedByFormats (colors : AppArray Int) (depth stencil : Int)
    (g g' : GraphicsInfo) : Prop :=
  (g'.colorBlend = true ↔ g.colorBlend = true ∧ colors.count ≠ 0) ∧
    (g'.depthStencil = true ↔ g.depthStencil = true ∧
      (depth ≠ undefinedFormat ∨ stencil ≠ undefinedFormat))

/-- Formats that are found decide, whatever is remembered of the render pass. -/
theorem GraphicsInfo.decidedByFormats_resolve (w : Wrapper) (known : Table Handle RenderPassUsage)
    {g : GraphicsInfo} {viewMask : UInt32} {colors : AppArray Int} {depth stencil : Int}
    (hfound : (Chain.copy w g.chain.blocks).value.rendering?
      = some (viewMask, colors.count, depth, stencil)) :
    g.DecidedByFormats colors depth stencil (g.resolve w known).value := by
  have huse : attachmentUse (Chain.copy w g.chain.blocks).value (known.get? g.renderPass) g.subpass
      = ⟨decide (0 < colors.count), depth != undefinedFormat || stencil != undefinedFormat⟩ := by
    unfold attachmentUse
    rw [hfound]
  show ((g.colorBlend && (attachmentUse (Chain.copy w g.chain.blocks).value _ _).color) = true
      ↔ _) ∧
    ((g.depthStencil && (attachmentUse (Chain.copy w g.chain.blocks).value _ _).depthStencil) = true
      ↔ _)
  rw [huse]
  simp [Nat.pos_iff_ne_zero]

/-- **Formats decide which states of a pipeline are handed down, unless a block of unknown
layout hides them.**  Take a system that wraps handles and anything that may happen to it.
Graphics pipelines that are asked for then, unless the call is skipped, are asked for once
below, and the first formats of dynamic rendering in a chain are at the same place of the chain
there.

If the layouts of all blocks in front of them are known, the colour blend state is kept if and
only if there are colour attachments, and the depth and stencil state if and only if one of the
two formats is defined, whatever the render pass and the subpass are.  If not, the attachments
of the subpass decide as if there were no formats. -/
theorem formats_decide_states [NextLayer σ] (instanceHandle : Handle) (requested : ApiVersion)
    (settings : Settings) (hwrapping : settings.handleWrapping = true) (table : EntryTable)
    (behaviour : Behaviour) (objects : List ValidationObject) (below : σ)
    (actions : List (Action σ)) :
    let start := System.start instanceHandle requested settings table behaviour objects below
    let s := start.run actions
    let H := start.history actions
    ∀ (k : Nat) (device : Dispatch Tracked) (cache : Handle) (infos : AppArray GraphicsInfo)
        (out : Outputs), s.devices[k]? = some device →
      device.registry.chain.vetoes s.world.behaviour .createGraphicsPipelines = false →
      device.table.provides .createGraphicsPipelines = true →
      ∃ infos', (s.act (.callDevice k (.createGraphicsPipelines cache infos) out)).world.calls
          = s.world.calls ++ [⟨device.handle, .ofDevice (.createGraphicsPipelines
              (s.world.wrapper.unwrap cache) infos'), out.slots.map List.length⟩] ∧
        infos'.toList.length = infos.toList.length ∧
        ∀ (i : Nat) (g g' : GraphicsInfo), infos.toList[i]? = some g → infos'.toList[i]? = some g' →
          ∀ before viewMask colors depth stencil after,
            g.chain.blocks = before ++ .rendering viewMask colors depth stencil :: after →
            (∀ viewMask colors depth stencil,
              .rendering viewMask colors depth stencil ∉ before) →
            g'.chain.blocks[before.length]? = some (.rendering viewMask colors depth stencil) ∧
              ((∀ b ∈ before, b.isKnown = true) → g.DecidedByFormats colors depth stencil g') ∧
              ((∃ b ∈ before, b.isKnown = false) → g.DecidedByPass H k g') := by
  intro start s H k device cache infos out hdevice hveto hprovides
  have hstart : start.Sound :=
    System.sound_start instanceHandle requested hwrapping table behaviour objects below
  have hrecalls : s.Recalls H := (System.recalls_start instanceHandle requested settings table
    behaviour objects below).run hstart actions
  have hcalls := Device.calls_createGraphicsPipelines (s := ⟨device, s.world⟩)
    (hstart.run actions).world.wrapping cache infos out hveto hprovides
  rw [System.act_of_device hdevice]
  refine ⟨_, hcalls, ?_, fun i g g' hg hg' before viewMask colors depth stencil after hchain
    hfirst => ?_⟩
  · rw [toList_value_resolveArray, List.length_map]
  · rw [toList_value_resolveArray, List.getElem?_map, hg] at hg'
    obtain rfl := Option.some.inj hg'
    refine ⟨?_, fun hknown => ?_, fun hcut => ?_⟩
    · show (Chain.copy s.world.wrapper g.chain.blocks).value.blocks[before.length]? = _
      rw [hchain]
      exact Chain.getElem?_blocks_copy_rendering _ _ _ _ _ _
    · have hfound := Chain.rendering?_of_known hfirst s.world.wrapper viewMask colors depth stencil
        after hknown
      rw [← hchain] at hfound
      exact g.decidedByFormats_resolve s.world.wrapper _ hfound
    · have hnone := Chain.rendering?_of_cut hfirst s.world.wrapper viewMask colors depth stencil
        after hcut
      rw [← hchain] at hnone
      have hdecided := hrecalls.decidedByPass s.world.wrapper (k := k) hnone
      rw [System.kept_of_device hdevice] at hdecided
      exact hdecided

/-- Two pipelines for the same render pass, which has a colour attachment and no other one, with
formats in their chains for depth and stencil only.  A block of known layout is in front of the
formats in the first chain, and one of unknown layout in the second. -/
theorem states_of_found_and_hidden_formats :
    let subpasses : AppArray Subpass := .elems [⟨.elems [0], none⟩]
    let actions : List (Action Scripted) :=
      [.createDevice 0xd000 0xe000 ⟨[.createRenderPass2, .createGraphicsPipelines]⟩ [],
        .callDevice 0 (.create (.renderPass .second subpasses)) { slots := some [0] }]
    let start := System.start 0xa000 0 .default .empty default [] ({} : Scripted)
    let s := start.run actions
    let formats : Block := .rendering 0 (.elems []) 126 undefinedFormat
    let pipeline (first : Block) : GraphicsInfo :=
      { (default : GraphicsInfo) with
        colorBlend := true, depthStencil := true, renderPass := idAt 0
        chain := .ofApp [first, formats] }
    let infos : AppArray GraphicsInfo :=
      .elems [pipeline (.validationCache 0), pipeline (.unknown 1000999000)]
    (Settings.default.handleWrapping = true ∧
        (s.devices[0]?).map (fun device =>
            (device.handle, device.registry.chain.vetoes s.world.behaviour .createGraphicsPipelines,
              device.table.provides .createGraphicsPipelines)) = some (0xe000, false, true)) ∧
      ∃ infos', (s.act (.callDevice 0 (.createGraphicsPipelines 0 infos) {})).world.calls
          = s.world.calls ++ [⟨0xe000, .ofDevice (.createGraphicsPipelines 0 infos'), none⟩] ∧
        infos'.toList.length = 2 ∧
        (∀ g', infos'.toList[0]? = some g' → g'.chain.blocks[1]? = some formats ∧
          g'.colorBlend = false ∧ g'.depthStencil = true) ∧
        ∀ g', infos'.toList[1]? = some g' → g'.chain.blocks[1]? = some formats ∧
          g'.colorBlend = true ∧ g'.depthStencil = false := by
  intro subpasses actions start s formats pipeline infos
  have hwrapping : Settings.default.handleWrapping = true := by decide +kernel
  have hdevice : (s.devices[0]?).map (fun device =>
      (device.handle, device.registry.chain.vetoes s.world.behaviour .createGraphicsPipelines,
        device.table.provides .createGraphicsPipelines)) = some (0xe000, false, true) := by
    decide +kernel
  have hH : start.history actions
      = [⟨0, .create (.renderPass .second subpasses), .success, { slots := some [idAt 0] }⟩] := by
    decide +kernel
  have hnull : s.world.wrapper.unwrap 0 = 0 := Wrapper.unwrap_zero _
  have hstands : StandsForPass (start.history actions) 0 (idAt 0) subpasses := by
    rw [hH]
    exact ⟨[], _, [], rfl, ⟨rfl, .second, [], rfl, rfl, rfl⟩,
      fun y hy => absurd hy List.not_mem_nil⟩
  -- the run is not looked into any more
  clear_value actions
  obtain ⟨device, hdevice', hfacts⟩ := Option.map_eq_some_iff.1 hdevice
  obtain ⟨hhandle, hrest⟩ := Prod.mk.inj hfacts
  obtain ⟨hveto, hprovides⟩ := Prod.mk.inj hrest
  obtain ⟨infos', hcall, hlength, hinfos⟩ := formats_decide_states 0xa000 0 .default hwrapping
    .empty default [] ({} : Scripted) actions 0 device 0 infos {} hdevice' hveto hprovides
  rw [hhandle, hnull] at hcall
  refine ⟨⟨hwrapping, hdevice⟩, infos', hcall, hlength, fun g' hg' => ?_, fun g' hg' => ?_⟩
  · obtain ⟨hplace, hfound, -⟩ := hinfos 0 _ g' rfl hg' [.validationCache 0] 0 (.elems []) 126
      undefinedFormat [] rfl (by simp)
    obtain ⟨hcolor, hdepth⟩ := hfound fun b hb => by rw [List.mem_singleton.1 hb]; rfl
    refine ⟨hplace, Bool.eq_false_iff.2 fun hkeeps => ?_, hdepth.2 ⟨rfl, .inl (by decide)⟩⟩
    exact (hcolor.1 hkeeps).2 rfl
  · obtain ⟨hplace, -, hhidden⟩ := hinfos 1 _ g' rfl hg' [.unknown 1000999000] 0 (.elems []) 126
      undefinedFormat [] rfl (by simp)
    obtain ⟨hpass, -⟩ := hhidden ⟨_, List.mem_singleton.2 rfl, rfl⟩
    obtain ⟨hcolor, hdepth⟩ := hpass subpasses hstands
    refine ⟨hplace, hcolor.2 ⟨rfl, _, rfl, 0, by decide, by decide⟩,
      Bool.eq_false_iff.2 fun hkeeps => ?_⟩
    obtain ⟨-, p, hp, a, ha, -⟩ := hdepth.1 hkeeps
    obtain rfl := Option.some.inj hp
    cases ha

end HandleLayer
