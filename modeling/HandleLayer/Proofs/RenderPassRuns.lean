import HandleLayer.Proofs.Completion
import HandleLayer.Proofs.CopyBack
import HandleLayer.Proofs.HandingDown
import HandleLayer.Proofs.Memos
import HandleLayer.Scripted

/-!
# Render passes along runs

A graphics pipeline keeps those of its states that the subpass it is for has attachments
for.  The layer knows that from the creation of the render pass, under the handle that the
application got; it forgets it when the render pass is named to be destroyed, whatever
comes of that call.

## Main definitions

* `Memo.renderPasses` — what is remembered of render passes.
* `Happening.Makes`, `Happening.Unmakes` — the calls that create a render pass, and those
  that name one to be destroyed.
* `StandsForPass` — the subpasses that a handle stands for after a run.
* `System.Recalls` — the invariant: what is remembered is what handles stand for.
* `GraphicsInfo.DecidedByPass` — which states are kept, when the attachments decide.
* `System.always`, `System.writesPass` — what holds throughout a run, and that the next layer
  writes render passes that are not null.

## Main results

* `System.Recalls.run` — the invariant holds whatever happens.
* `attachments_decide_states` — **the attachments of a subpass decide which states of a
  pipeline are handed down.**
-/

namespace HandleLayer

variable {σ : Type}

/-! ### Subpasses by their numbers -/

namespace RenderPassUsage

variable {subpasses : List Subpass}

theorem mem_numbers {p : Subpass → Bool} {start n : Nat} :
    n ∈ numbers p start subpasses ↔ ∃ i s, subpasses[i]? = some s ∧ n = start + i ∧ p s = true := by
  induction subpasses generalizing start with
  | nil => simp [numbers]
  | cons first rest ih =>
    have hcons : n ∈ numbers p start (first :: rest)
        ↔ (n = start ∧ p first = true) ∨ n ∈ numbers p (start + 1) rest := by
      rw [numbers]
      cases p first <;> simp
    rw [hcons, ih]
    constructor
    · rintro (⟨rfl, hfirst⟩ | ⟨i, s, hs, rfl, hp⟩)
      · exact ⟨0, first, rfl, rfl, hfirst⟩
      · exact ⟨i + 1, s, hs, by omega, hp⟩
    · rintro ⟨i, s, hs, rfl, hp⟩
      cases i with
      | zero =>
        obtain rfl : first = s := Option.some.inj hs
        exact .inl ⟨rfl, hp⟩
      | succ i => exact .inr ⟨i, s, hs, by omega, hp⟩

/-- The subpass with a number, if it is among those that are remembered. -/
theorem contains_numbers {p : Subpass → Bool} {subpass : UInt32} :
    (numbers p 0 subpasses).contains subpass.toNat = true
      ↔ ∃ s, subpasses[subpass.toNat]? = some s ∧ p s = true := by
  rw [List.contains_iff_mem, mem_numbers]
  constructor
  · rintro ⟨i, s, hs, hi, hp⟩
    obtain rfl : i = subpass.toNat := by omega
    exact ⟨s, hs, hp⟩
  · rintro ⟨s, hs, hp⟩
    exact ⟨subpass.toNat, s, hs, by omega, hp⟩

variable (subpasses : AppArray Subpass) (subpass : UInt32)

/-- Colour is used exactly where a colour attachment of the subpass is. -/
theorem usesColor_ofSubpasses :
    (ofSubpasses subpasses).usesColor subpass = true ↔ ∃ s,
      subpasses.toList[subpass.toNat]? = some s ∧ ∃ a ∈ s.color.toList, a ≠ unusedAttachment := by
  unfold usesColor ofSubpasses
  rw [contains_numbers]
  simp [Subpass.usesColor]

/-- Depth and stencil are used exactly where the depth attachment of the subpass is. -/
theorem usesDepthStencil_ofSubpasses :
    (ofSubpasses subpasses).usesDepthStencil subpass = true ↔ ∃ s,
      subpasses.toList[subpass.toNat]? = some s ∧ ∃ a, s.depth = some a ∧ a ≠ unusedAttachment := by
  unfold usesDepthStencil ofSubpasses
  rw [contains_numbers]
  simp [Subpass.usesDepthStencil, Option.any_eq_true]

end RenderPassUsage

/-! ### What is remembered -/

/-- What is remembered of render passes: which of their subpasses have attachments. -/
def Memo.renderPasses : Memo (AppArray Subpass) RenderPassUsage where
  table t := t.renderPasses
  kind := .renderPass
  made?
    | .renderPass _ subpasses => some subpasses
    | _ => none
  digest := .ofSubpasses
  table_empty := rfl
  table_prepared _ _ := rfl
  childless := by decide
  table_remember t h info := by cases info <;> rfl
  table_edits r f hf hcreate hdestroy t := by
    cases hf with
    | forgetUsage h => exact absurd rfl (hdestroy h)
    | remember info h => exact absurd rfl (hcreate info)
    | _ => rfl

/-! ### What handles stand for -/

namespace Happening

/-- Whether a call has created a render pass of the device, which the application knows as
`h`, in either form. -/
def Makes (x : Happening) (k : Nat) (h : Handle) (subpasses : AppArray Subpass) : Prop :=
  x.device = k ∧ ∃ form rest, x.request = .create (.renderPass form subpasses) ∧
    x.outcome.1 = .success ∧ x.outcome.2.slots = some (h :: rest)

/-- Whether a call names a render pass of the device to be destroyed. -/
def Unmakes (x : Happening) (k : Nat) (h : Handle) : Prop :=
  x.device = k ∧ x.request = .destroy .renderPass h

/-- Whether a handle stands for another render pass of the device after a call, or for
none. -/
def Settles (x : Happening) (k : Nat) (h : Handle) : Prop :=
  x.Unmakes k h ∨ ∃ subpasses, x.Makes k h subpasses

variable {x : Happening} {k : Nat} {h : Handle} {subpasses : AppArray Subpass}

theorem Makes.returns (hx : x.Makes k h subpasses) : x.Returns h := by
  obtain ⟨-, form, rest, hrequest, hsuccess, hslots⟩ := hx
  exact ⟨_, rest, hrequest, hsuccess, hslots⟩

theorem makes_iff : x.Makes k h subpasses ↔ Memo.renderPasses.Makes x k h subpasses := by
  refine and_congr_right fun _ => ⟨?_, ?_⟩
  · rintro ⟨form, rest, hrequest, hreturned⟩
    exact ⟨_, rest, hrequest, rfl, hreturned⟩
  · rintro ⟨info, rest, hrequest, hmade, hreturned⟩
    cases info with
    | renderPass form subpasses' =>
      obtain rfl := Option.some.inj hmade
      exact ⟨form, rest, hrequest, hreturned⟩
    | _ => cases hmade

theorem settles_iff : x.Settles k h ↔ Memo.renderPasses.Settles x k h :=
  or_congr_right (exists_congr fun _ => makes_iff)

end Happening

/-- Whether a handle stands for a render pass of the device with these subpasses, after all
these calls: it was created under the handle, and no call since has destroyed it or put
another one in its place. -/
def StandsForPass (H : List Happening) (k : Nat) (h : Handle) (subpasses : AppArray Subpass) :
    Prop :=
  ∃ before x after, H = before ++ x :: after ∧ x.Makes k h subpasses ∧
    ∀ y ∈ after, ¬ y.Settles k h

section StandsForPass

variable {H : List Happening} {x : Happening} {k : Nat} {h : Handle}
  {subpasses : AppArray Subpass}

theorem standsForPass_iff :
    StandsForPass H k h subpasses ↔ Memo.renderPasses.StandsFor H k h subpasses := by
  simp only [StandsForPass, Memo.StandsFor, Happening.makes_iff, Happening.settles_iff]

/-- A handle that no later call returns stands for what it was created for, until it is named
to be destroyed. -/
theorem standsForPass_append (hx : x.Makes k h subpasses) {after : List Happening}
    (hfresh : ∀ y ∈ after, ∀ subpasses, ¬ y.Makes k h subpasses) {subpasses' : AppArray Subpass} :
    StandsForPass (H ++ x :: after) k h subpasses'
      ↔ subpasses' = subpasses ∧ ∀ y ∈ after, ¬ y.Unmakes k h :=
  standsForPass_iff.trans (Memo.standsFor_append (Happening.makes_iff.1 hx)
    fun y hy subpasses hmakes => hfresh y hy subpasses (Happening.makes_iff.2 hmakes))

end StandsForPass

/-! ### What is remembered along runs -/

namespace System

/-- What is remembered of render passes is what handles stand for. -/
def Recalls (s : System σ) (H : List Happening) : Prop :=
  ∀ k h,
    (∀ subpasses, StandsForPass H k h subpasses →
      (s.kept k).renderPasses.get? h = some (.ofSubpasses subpasses)) ∧
    ((∀ subpasses, ¬ StandsForPass H k h subpasses) → (s.kept k).renderPasses.get? h = none)

variable [NextLayer σ] {s : System σ} {H : List Happening}

omit [NextLayer σ] in
theorem recalls_iff : s.Recalls H ↔ Memo.renderPasses.Recalls s H := by
  constructor
  · intro hs k h usage
    obtain ⟨hknown, hunknown⟩ := hs k h
    constructor
    · intro hget
      by_cases hstands : ∃ subpasses, StandsForPass H k h subpasses
      · obtain ⟨subpasses, hstands⟩ := hstands
        exact ⟨subpasses, standsForPass_iff.1 hstands,
          Option.some.inj ((hknown subpasses hstands).symm.trans hget)⟩
      · have hnone := hunknown fun subpasses hsubpasses => hstands ⟨subpasses, hsubpasses⟩
        cases hnone.symm.trans hget
    · rintro ⟨subpasses, hstands, rfl⟩
      exact hknown subpasses (standsForPass_iff.2 hstands)
  · refine fun hs k h => ⟨fun subpasses hstands => ?_, fun hnone => ?_⟩
    · exact (hs k h _).2 ⟨subpasses, standsForPass_iff.1 hstands, rfl⟩
    · cases hget : (s.kept k).renderPasses.get? h with
      | none => rfl
      | some usage =>
        obtain ⟨subpasses, hstands, -⟩ := (hs k h usage).1 hget
        exact absurd (standsForPass_iff.2 hstands) (hnone subpasses)

/-- **The invariant holds whatever happens.** -/
theorem Recalls.run (hs : s.Recalls H) (hsound : s.Sound) (actions : List (Action σ)) :
    (s.run actions).Recalls (H ++ s.history actions) :=
  recalls_iff.2 ((recalls_iff.1 hs).run hsound actions)

omit [NextLayer σ] in
/-- In the beginning nothing is remembered. -/
theorem recalls_start (instanceHandle : Handle) (requested : ApiVersion) (settings : Settings)
    (table : EntryTable) (behaviour : Behaviour) (objects : List ValidationObject) (below : σ) :
    (start instanceHandle requested settings table behaviour objects below).Recalls [] :=
  recalls_iff.2 (Memo.recalls_start _ instanceHandle requested settings table behaviour objects
    below)

/-! ### A next layer that keeps its word -/

/-- Whether something holds of every state of a run and of what happens next. -/
def always (p : System σ → Action σ → Bool) (s : System σ) : List (Action σ) → Bool
  | [] => true
  | a :: actions => p s a && always p (s.act a) actions

/-- Whether the next layer writes a render pass that is not null when it is asked for one and
succeeds. -/
def writesPass (s : System σ) : Action σ → Bool
  | .callDevice k (.create (.renderPass form subpasses)) out =>
    (s.devices[k]?).all fun device =>
      let reply := Device.answer (.create (.renderPass form subpasses))
        (out.slots.map List.length) ⟨device, s.world⟩
      reply.result != .success || reply.slots.head?.any fun real => real.any (· != 0)
  | _ => true

theorem ne_zero_of_writesPass {k : Nat} {device : Dispatch Tracked}
    (hdevice : s.devices[k]? = some device) {form : RenderPassForm}
    {subpasses : AppArray Subpass} {out : Outputs}
    (hwrites : s.writesPass (.callDevice k (.create (.renderPass form subpasses)) out) = true)
    {reply : Reply} (hreply : Device.answer (.create (.renderPass form subpasses))
      (out.slots.map List.length) ⟨device, s.world⟩ = reply)
    (hsuccess : reply.result = .success) {real : Handle} {rest : List Handle}
    (hreal : out.slots.map (overlay · reply.slots) = some (real :: rest)) : real ≠ 0 := by
  unfold writesPass at hwrites
  dsimp only at hwrites
  rw [hdevice, Option.all_some, hreply, hsuccess] at hwrites
  obtain ⟨slots, -, hover⟩ := Option.map_eq_some_iff.1 hreal
  cases hslots : reply.slots with
  | nil => simp [hslots] at hwrites
  | cons first others =>
    cases first with
    | none => simp [hslots] at hwrites
    | some written =>
      cases slots with
      | nil => simp at hover
      | cons old olds =>
        rw [hslots, overlay_cons, Option.getD_some] at hover
        obtain ⟨rfl, -⟩ := List.cons.inj hover
        simpa [hslots] using hwrites

/-- The null handle is no render pass. -/
theorem not_makes_null (hs : s.Sound) (hwrites : s.always writesPass actions = true) :
    ∀ x ∈ s.history actions, ∀ k subpasses, ¬ x.Makes k 0 subpasses := by
  induction actions generalizing s with
  | nil => exact fun x hx => absurd hx List.not_mem_nil
  | cons a actions ih =>
    obtain ⟨hfirst, hrest⟩ := Bool.and_eq_true_iff.1 hwrites
    intro x hx k subpasses hmakes
    rw [history, List.mem_append, Option.mem_toList] at hx
    rcases hx with hx | hx
    · obtain ⟨device, out, rfl, hdevice, houtcome⟩ := exists_of_happening? hx
      obtain ⟨-, form, rest, hrequest, hsuccess, hslots⟩ := hmakes
      rw [houtcome, hrequest] at hsuccess hslots
      obtain ⟨real, hanswer, hreal, hh, -⟩ := Device.exists_of_perform_create
        (s := ⟨device, s.world⟩) hs.world.wrapping hsuccess hslots
      -- the handle that is written gets a surrogate, which is not null
      rw [hrequest] at hfirst
      have hwritten : real ≠ 0 := ne_zero_of_writesPass hdevice hfirst rfl hanswer hreal
      obtain ⟨n, -, hzero, hwrap⟩ := Wrapper.exists_wrapNew_eq hs.world.wrapping hwritten
      rw [hwrap] at hh
      exact hzero hh.symm
    · exact ih (hs.act a) hrest x hx k subpasses hmakes

end System

/-! ### The descriptions handed down -/

namespace Chain

/-- A copy has formats of dynamic rendering only where the chain has them. -/
theorem rendering?_copy (w : Wrapper) {app : List Block}
    (happ : ∀ viewMask colors depth stencil, .rendering viewMask colors depth stencil ∉ app) :
    (copy w app).value.rendering? = none := by
  refine List.findSome?_eq_none_iff.2 fun c hc => ?_
  obtain ⟨i, hi⟩ := List.mem_iff_getElem?.1 hc
  obtain ⟨b, hb, hcopy⟩ := exists_of_copied w hi
  have hmem := List.mem_of_getElem? hb
  obtain ⟨-, hcopied⟩ := Option.ite_none_right_eq_some.1 hcopy
  obtain rfl := Option.some.inj hcopied
  cases b with
  | rendering viewMask colors depth stencil => exact absurd hmem (happ _ _ _ _)
  | _ => rfl

end Chain

/-- Where no formats of dynamic rendering are copied, what is remembered of the render pass
decides. -/
theorem GraphicsInfo.states_resolve (w : Wrapper) (known : Table Handle RenderPassUsage)
    {g : GraphicsInfo} (hnone : (Chain.copy w g.chain.blocks).value.rendering? = none) :
    (g.resolve w known).value.colorBlend
        = (g.colorBlend && (known.get? g.renderPass).any (·.usesColor g.subpass)) ∧
      (g.resolve w known).value.depthStencil
        = (g.depthStencil && (known.get? g.renderPass).any (·.usesDepthStencil g.subpass)) := by
  have huse : attachmentUse (Chain.copy w g.chain.blocks).value (known.get? g.renderPass) g.subpass
      = ⟨(known.get? g.renderPass).any (·.usesColor g.subpass),
          (known.get? g.renderPass).any (·.usesDepthStencil g.subpass)⟩ := by
    unfold attachmentUse
    rw [hnone]
    cases known.get? g.renderPass <;> rfl
  show (g.colorBlend && (attachmentUse (Chain.copy w g.chain.blocks).value _ _).color) = _ ∧
    (g.depthStencil && (attachmentUse (Chain.copy w g.chain.blocks).value _ _).depthStencil) = _
  rw [huse]
  exact ⟨rfl, rfl⟩

namespace Device

variable [NextLayer σ] {s : Layer Tracked σ}

/-- Graphics pipelines are asked for once. -/
theorem calls_createGraphicsPipelines (hs : s.world.wrapper.enabled = true) (cache : Handle)
    (infos : AppArray GraphicsInfo) (out : Outputs)
    (hveto : s.object.registry.chain.vetoes s.world.behaviour .createGraphicsPipelines = false)
    (hprovides : s.object.table.provides .createGraphicsPipelines = true) :
    ((perform (.createGraphicsPipelines cache infos) out).run s).2.world.calls
      = s.world.calls ++ [⟨s.object.handle, .ofDevice (.createGraphicsPipelines
          (s.world.wrapper.unwrap cache)
          (resolveArray (GraphicsInfo.resolve s.world.wrapper s.object.own.renderPasses)
            infos).value),
          out.slots.map List.length⟩] := by
  have hcalls := calls_perform_of_asksOnce (r := .createGraphicsPipelines cache infos) hs
    (asksOnce_createPipelines _ _ out) rfl hveto hprovides
  rw [DeviceRequest.resolve_of_enabled hs] at hcalls
  exact hcalls

end Device

/-! ### Which states are handed down -/

/-- Whether the attachments of a subpass decide which states of `g` are kept in `g'`, after all
these calls. -/
def GraphicsInfo.DecidedByPass (H : List Happening) (k : Nat) (g g' : GraphicsInfo) : Prop :=
  (∀ subpasses, StandsForPass H k g.renderPass subpasses →
    (g'.colorBlend = true ↔ g.colorBlend = true ∧ ∃ p,
      subpasses.toList[g.subpass.toNat]? = some p ∧
        ∃ a ∈ p.color.toList, a ≠ unusedAttachment) ∧
    (g'.depthStencil = true ↔ g.depthStencil = true ∧ ∃ p,
      subpasses.toList[g.subpass.toNat]? = some p ∧
        ∃ a, p.depth = some a ∧ a ≠ unusedAttachment)) ∧
  ((∀ subpasses, ¬ StandsForPass H k g.renderPass subpasses) →
    g'.colorBlend = false ∧ g'.depthStencil = false)

/-- What handles stand for decides what is handed down of one description, where no formats of
dynamic rendering are copied. -/
theorem System.Recalls.decidedByPass {s : System σ} {H : List Happening} (hs : s.Recalls H)
    (w : Wrapper) {k : Nat} {g : GraphicsInfo}
    (hnone : (Chain.copy w g.chain.blocks).value.rendering? = none) :
    g.DecidedByPass H k (g.resolve w (s.kept k).renderPasses).value := by
  obtain ⟨hcolor, hdepth⟩ := g.states_resolve w (s.kept k).renderPasses hnone
  obtain ⟨hknown, hunknown⟩ := hs k g.renderPass
  unfold GraphicsInfo.DecidedByPass
  refine ⟨fun subpasses hstands => ?_, fun hnone => ?_⟩
  · rw [hcolor, hdepth, hknown subpasses hstands, Option.any_some, Option.any_some,
      Bool.and_eq_true, Bool.and_eq_true, RenderPassUsage.usesColor_ofSubpasses,
      RenderPassUsage.usesDepthStencil_ofSubpasses]
    exact ⟨Iff.rfl, Iff.rfl⟩
  · rw [hcolor, hdepth, hunknown hnone]
    simp

/-- The same for a chain without formats of dynamic rendering. -/
theorem System.Recalls.states {s : System σ} {H : List Happening} (hs : s.Recalls H) (w : Wrapper)
    {k : Nat} {g : GraphicsInfo} (hchain : ∀ viewMask colors depth stencil,
      .rendering viewMask colors depth stencil ∉ g.chain.blocks) :
    g.DecidedByPass H k (g.resolve w (s.kept k).renderPasses).value :=
  hs.decidedByPass w (Chain.rendering?_copy w hchain)

/-- **The attachments of a subpass decide which states of a pipeline are handed down.**  Take a
system that wraps handles and anything that may happen to it.  Graphics pipelines that are
asked for then, unless the call is skipped, are asked for once below.  A description without
formats of dynamic rendering in its chain keeps its colour blend state if and only if its
render pass has a subpass of the number it names in which a colour attachment is used, and
likewise its depth and stencil state; where its handle stands for no render pass of the
device, it keeps neither.

The null handle stands for no render pass, if the next layer does not write it for one.  As
long as fewer ids are drawn than there are, a handle that a creation has returned stands for
the render pass of this creation until it is named to be destroyed, and for no other one. -/
theorem attachments_decide_states [NextLayer σ] (instanceHandle : Handle) (requested : ApiVersion)
    (settings : Settings) (hwrapping : settings.handleWrapping = true) (table : EntryTable)
    (behaviour : Behaviour) (objects : List ValidationObject) (below : σ)
    (actions : List (Action σ)) :
    let start := System.start instanceHandle requested settings table behaviour objects below
    let s := start.run actions
    let H := start.history actions
    (∀ (k : Nat) (device : Dispatch Tracked) (cache : Handle) (infos : AppArray GraphicsInfo)
        (out : Outputs), s.devices[k]? = some device →
      device.registry.chain.vetoes s.world.behaviour .createGraphicsPipelines = false →
      device.table.provides .createGraphicsPipelines = true →
      ∃ infos', (s.act (.callDevice k (.createGraphicsPipelines cache infos) out)).world.calls
          = s.world.calls ++ [⟨device.handle, .ofDevice (.createGraphicsPipelines
              (s.world.wrapper.unwrap cache) infos'), out.slots.map List.length⟩] ∧
        infos'.toList.length = infos.toList.length ∧
        ∀ (i : Nat) (g g' : GraphicsInfo), infos.toList[i]? = some g → infos'.toList[i]? = some g' →
          (∀ viewMask colors depth stencil,
            .rendering viewMask colors depth stencil ∉ g.chain.blocks) →
          (∀ subpasses, StandsForPass H k g.renderPass subpasses →
            (g'.colorBlend = true ↔ g.colorBlend = true ∧ ∃ p,
              subpasses.toList[g.subpass.toNat]? = some p ∧
                ∃ a ∈ p.color.toList, a ≠ unusedAttachment) ∧
            (g'.depthStencil = true ↔ g.depthStencil = true ∧ ∃ p,
              subpasses.toList[g.subpass.toNat]? = some p ∧
                ∃ a, p.depth = some a ∧ a ≠ unusedAttachment)) ∧
          ((∀ subpasses, ¬ StandsForPass H k g.renderPass subpasses) →
            g'.colorBlend = false ∧ g'.depthStencil = false)) ∧
    (start.always System.writesPass actions = true →
      ∀ k subpasses, ¬ StandsForPass H k 0 subpasses) ∧
    (s.world.wrapper.map.drawn ≤ drawLimit →
      ∀ k h subpasses before x after, H = before ++ x :: after → h ≠ 0 →
        x.Makes k h subpasses → ∀ subpasses', StandsForPass H k h subpasses'
          ↔ subpasses' = subpasses ∧ ∀ y ∈ after, ¬ y.Unmakes k h) := by
  intro start s H
  have hstart : start.Sound :=
    System.sound_start instanceHandle requested hwrapping table behaviour objects below
  have hrecalls : s.Recalls H := (System.recalls_start instanceHandle requested settings table
    behaviour objects below).run hstart actions
  refine ⟨fun k device cache infos out hdevice hveto hprovides => ?_, fun hwrites k subpasses => ?_,
    fun hlimit k h subpasses before x after hH hzero hx subpasses' => ?_⟩
  · have hcalls := Device.calls_createGraphicsPipelines (s := ⟨device, s.world⟩)
      (hstart.run actions).world.wrapping cache infos out hveto hprovides
    rw [System.act_of_device hdevice]
    refine ⟨_, hcalls, ?_, fun i g g' hg hg' hchain => ?_⟩
    · rw [toList_value_resolveArray, List.length_map]
    · rw [toList_value_resolveArray, List.getElem?_map, hg] at hg'
      obtain rfl := Option.some.inj hg'
      have hstates := hrecalls.states s.world.wrapper (k := k) hchain
      rw [System.kept_of_device hdevice] at hstates
      exact hstates
  · rintro ⟨before, x, after, hH, hx, -⟩
    have hmem : x ∈ start.history actions := by
      show x ∈ H
      rw [hH]
      exact List.mem_append_right _ List.mem_cons_self
    exact System.not_makes_null hstart hwrites x hmem k subpasses hx
  · have hfresh := System.not_returns_twice hstart hlimit hH hx.returns hzero
    rw [hH]
    exact standsForPass_append hx fun y hy subpasses hmakes => hfresh y hy hmakes.returns

/-- Two render passes with two subpasses each, one of which is destroyed.  The first subpass
has a colour attachment, the second one a depth attachment, and there is none in the pass that
is gone, nor in the null handle. -/
theorem states_of_four_pipelines :
    let subpasses : AppArray Subpass :=
      .elems [⟨.elems [unusedAttachment, 0], none⟩, ⟨.elems [unusedAttachment], some 1⟩]
    let actions : List (Action Scripted) :=
      [.createDevice 0xd000 0xe000 ⟨[.createRenderPass2, .createGraphicsPipelines]⟩ [],
        .callDevice 0 (.create (.renderPass .second subpasses)) { slots := some [0] },
        .callDevice 0 (.create (.renderPass .second subpasses)) { slots := some [0] },
        .callDevice 0 (.destroy .renderPass (idAt 1)) {}]
    let start := System.start 0xa000 0 .default .empty default [] ({} : Scripted)
    let s := start.run actions
    let pipeline (pass : Handle) (subpass : UInt32) : GraphicsInfo :=
      { (default : GraphicsInfo) with
        colorBlend := true, depthStencil := true, renderPass := pass, subpass }
    let infos : AppArray GraphicsInfo :=
      .elems [pipeline (idAt 0) 0, pipeline (idAt 0) 1, pipeline (idAt 1) 0, pipeline 0 0]
    (Settings.default.handleWrapping = true ∧ start.always System.writesPass actions = true ∧
        s.world.wrapper.map.drawn ≤ drawLimit ∧
        (s.devices[0]?).map (fun device =>
            (device.handle, device.registry.chain.vetoes s.world.behaviour .createGraphicsPipelines,
              device.table.provides .createGraphicsPipelines)) = some (0xe000, false, true)) ∧
      ∃ infos', (s.act (.callDevice 0 (.createGraphicsPipelines 0 infos) {})).world.calls
          = s.world.calls ++ [⟨0xe000, .ofDevice (.createGraphicsPipelines 0 infos'), none⟩] ∧
        infos'.toList.length = 4 ∧
        (∀ g', infos'.toList[0]? = some g' → g'.colorBlend = true ∧ g'.depthStencil = false) ∧
        (∀ g', infos'.toList[1]? = some g' → g'.colorBlend = false ∧ g'.depthStencil = true) ∧
        (∀ g', infos'.toList[2]? = some g' → g'.colorBlend = false ∧ g'.depthStencil = false) ∧
        ∀ g', infos'.toList[3]? = some g' → g'.colorBlend = false ∧ g'.depthStencil = false := by
  intro subpasses actions start s pipeline infos
  have hwrapping : Settings.default.handleWrapping = true := by decide +kernel
  have hwrites : start.always System.writesPass actions = true := by decide +kernel
  have hlimit : s.world.wrapper.map.drawn ≤ drawLimit := by decide +kernel
  have hdevice : (s.devices[0]?).map (fun device =>
      (device.handle, device.registry.chain.vetoes s.world.behaviour .createGraphicsPipelines,
        device.table.provides .createGraphicsPipelines)) = some (0xe000, false, true) := by
    decide +kernel
  have hH : start.history actions
      = [⟨0, .create (.renderPass .second subpasses), .success, { slots := some [idAt 0] }⟩,
        ⟨0, .create (.renderPass .second subpasses), .success, { slots := some [idAt 1] }⟩,
        ⟨0, .destroy .renderPass (idAt 1), .success, {}⟩] := by decide +kernel
  have hids : idAt 0 ≠ 0 ∧ idAt 1 ≠ 0 ∧ idAt 0 ≠ idAt 1 := by decide +kernel
  have hnull : s.world.wrapper.unwrap 0 = 0 := Wrapper.unwrap_zero _
  -- the run is not looked into any more
  clear_value actions
  obtain ⟨hcalls, hzero, hstands⟩ := attachments_decide_states 0xa000 0 .default hwrapping .empty
    default [] ({} : Scripted) actions
  have hfirst : StandsForPass (start.history actions) 0 (idAt 0) subpasses := by
    refine (hstands hlimit 0 (idAt 0) subpasses [] _ _ hH hids.1
      ⟨rfl, .second, [], rfl, rfl, rfl⟩ subpasses).2 ⟨rfl, fun y hy hunmakes => ?_⟩
    rcases List.mem_pair.1 hy with rfl | rfl
    · cases hunmakes.2
    · have hsame : DeviceRequest.destroy .renderPass (idAt 1) = .destroy .renderPass (idAt 0) :=
        hunmakes.2
      injection hsame with _ hsame
      exact hids.2.2 hsame.symm
  have hsecond : ∀ subpasses', ¬ StandsForPass (start.history actions) 0 (idAt 1) subpasses' := by
    intro subpasses' hpass
    have hgone := (hstands hlimit 0 (idAt 1) subpasses [_] _ [_] hH hids.2.1
      ⟨rfl, .second, [], rfl, rfl, rfl⟩ subpasses').1 hpass
    exact hgone.2 _ (List.mem_singleton.2 rfl) ⟨rfl, rfl⟩
  obtain ⟨device, hdevice', hfacts⟩ := Option.map_eq_some_iff.1 hdevice
  obtain ⟨hhandle, hrest⟩ := Prod.mk.inj hfacts
  obtain ⟨hveto, hprovides⟩ := Prod.mk.inj hrest
  obtain ⟨infos', hcall, hlength, hinfos⟩ := hcalls 0 device 0 infos {} hdevice' hveto hprovides
  rw [hhandle, hnull] at hcall
  have hplain : ∀ viewMask colors depth stencil,
      Block.rendering viewMask colors depth stencil ∉ ([] : List Block) :=
    fun _ _ _ _ => List.not_mem_nil
  refine ⟨⟨hwrapping, hwrites, hlimit, hdevice⟩, infos', hcall, hlength, fun g' hg' => ?_,
    fun g' hg' => ?_, fun g' hg' => ?_, fun g' hg' => ?_⟩
  · obtain ⟨hcolor, hdepth⟩ := (hinfos 0 _ g' rfl hg' hplain).1 subpasses hfirst
    refine ⟨hcolor.2 ⟨rfl, _, rfl, 0, by decide, by decide⟩, Bool.eq_false_iff.2 fun hkeeps => ?_⟩
    obtain ⟨-, p, hp, a, ha, -⟩ := hdepth.1 hkeeps
    obtain rfl := Option.some.inj hp
    cases ha
  · obtain ⟨hcolor, hdepth⟩ := (hinfos 1 _ g' rfl hg' hplain).1 subpasses hfirst
    refine ⟨Bool.eq_false_iff.2 fun hkeeps => ?_, hdepth.2 ⟨rfl, _, rfl, 1, rfl, by decide⟩⟩
    obtain ⟨-, p, hp, a, ha, hused⟩ := hcolor.1 hkeeps
    obtain rfl := Option.some.inj hp
    exact hused (List.mem_singleton.1 ha)
  · exact (hinfos 2 _ g' rfl hg' hplain).2 hsecond
  · exact (hinfos 3 _ g' rfl hg' hplain).2 (hzero hwrites 0)

end HandleLayer
