import HandleLayer.Proofs.ChainCopies
import HandleLayer.Proofs.HandingDown
import HandleLayer.Proofs.Standing
import HandleLayer.Scripted

/-!
# Templates along runs

Data for an update template are rebuilt before they go down, by the entries that the template was
created from.  The device remembers these under the handle that the application got.  As no
handle is returned twice, no template ever takes over the entries of another one, whatever is
created and destroyed in between.

Two limits are part of the design: each device remembers its own templates only, and a chain is
copied only up to the first block of unknown layout.

## Main definitions

* `Memo.templates` — what is remembered of templates.
* `System.HandsDown` — what a request goes down as, if it is not skipped.
* `System.GoesBy` — how requests go down that go by a template.

## Main results

* `System.goesBy_of_kept` — a template that is remembered decides the data.
* `templates_keep_entries` — **templates go by the entries that they were created from.**
-/

namespace HandleLayer

variable {σ : Type}

/-! ### What is remembered of templates -/

/-- What is remembered of templates: what they were created from, but for the layouts. -/
def Memo.templates : Memo Template Template where
  table t := t.templates
  kind := .updateTemplate
  made?
    | .updateTemplate type _ _ entries => some ⟨type, entries.toList⟩
    | _ => none
  digest := id
  table_empty := rfl
  table_prepared _ _ := rfl
  childless := by decide
  table_remember t h info := by cases info <;> rfl
  table_edits r f hf hcreate hdestroy t := by
    cases hf with
    | forgetTemplate h => exact absurd rfl (hdestroy h)
    | remember info h => exact absurd rfl (hcreate info)
    | _ => rfl

theorem Memo.recalls_templates {s : System σ} {H : List Happening} :
    templates.Recalls s H ↔
      ∀ k h T, (s.kept k).templates.get? h = some T ↔ templates.StandsFor H k h T := by
  have hdigest : ∀ k h T, (∃ T', templates.StandsFor H k h T' ∧ templates.digest T' = T)
      ↔ templates.StandsFor H k h T := fun _ _ _ => exists_eq_right
  exact forall_congr' fun k => forall_congr' fun h => forall_congr' fun T => by rw [hdigest]; rfl

/-! ### Requests that go by templates -/

namespace System

variable [NextLayer σ] {s : System σ} {k : Nat}

/-- What a request to a device goes down as, if it is not skipped and the next layer has the
entry point. -/
def HandsDown (s : System σ) (k : Nat) (r down : DeviceRequest) : Prop :=
  ∀ device out, s.devices[k]? = some device →
    device.registry.chain.vetoes s.world.behaviour r.command = false →
    device.table.provides r.command = true →
    (s.act (.callDevice k r out)).world.calls = s.world.calls ++
      [⟨device.handle, .ofDevice down, out.slots.map List.length⟩]

/-- How requests to a device go down that go by the template `t`: for the real template and with
the other real handles, and with data that are rebuilt by the entries of `T`.  Set layouts in a
chain are real handles too if all blocks in front of them are known. -/
structure GoesBy (s : System σ) (k : Nat) (t real : Handle) (T : Template) : Prop where
  update : ∀ set data, s.HandsDown k (.updateSetWithTemplate set t data)
    (.updateSetWithTemplate (s.world.wrapper.unwrap set) real
      (some (T.build s.world.wrapper data).value))
  push : ∀ buffer layout index data, s.HandsDown k (.pushSetWithTemplate buffer t layout index data)
    (.pushSetWithTemplate buffer real (s.world.wrapper.unwrap layout) index
      (some (T.build s.world.wrapper data).value))
  pushChained : ∀ buffer layout index data chain, ∃ chain' : Chain,
    s.HandsDown k (.pushSetWithTemplate2 buffer t layout index data chain)
      (.pushSetWithTemplate2 buffer real (s.world.wrapper.unwrap layout) index
        (some (T.build s.world.wrapper data).value) chain') ∧
    ∀ i layouts, chain.blocks[i]? = some (Block.pipelineLayout layouts) →
      chain'.blocks[i]? = some (Block.pipelineLayout (if (chain.blocks.take i).all Block.isKnown
        then layouts.map s.world.wrapper.unwrap else layouts))

/-- The one request that goes down by a template. -/
theorem handsDown_of_data? {r down : DeviceRequest} {template : Handle} {data : Option Blob}
    (hr : r.data? = some (template, data)) (hs : s.world.wrapper.enabled = true)
    (hdown : (r.resolve s.world.wrapper (s.kept k).toShadows).value = down) :
    s.HandsDown k r down := by
  intro device out hdevice hveto hprovides
  rw [kept_of_device hdevice] at hdown
  rw [act_of_device hdevice, ← hdown]
  exact Device.calls_perform_of_data? (s := ⟨device, s.world⟩) hr hs hveto hprovides out

end System

/-- Set layouts in a chain go down as real handles in front of the first block of unknown
layout, and as they are behind it. -/
theorem Chain.getElem?_blocks_copy_pipelineLayout (w : Wrapper) {app : List Block} {i : Nat}
    {layouts : AppArray Handle} (hi : app[i]? = some (.pipelineLayout layouts)) :
    (copy w app).value.blocks[i]? = some (.pipelineLayout
      (if (app.take i).all Block.isKnown then layouts.map w.unwrap else layouts)) := by
  rw [getElem?_blocks_copy_of_isKnown w hi rfl]
  split <;> rfl

/-- **A template that is remembered decides the data.** -/
theorem System.goesBy_of_kept [NextLayer σ] {s : System σ} {k : Nat} {t : Handle} {T : Template}
    (hs : s.world.wrapper.enabled = true) (ht : (s.kept k).templates.get? t = some T) :
    s.GoesBy k t (s.world.wrapper.unwrap t) T := by
  have hrebuild : ∀ data, (s.kept k).toShadows.rebuild s.world.wrapper t data
      = (T.build s.world.wrapper data).map some := by
    intro data
    unfold Shadows.rebuild
    rw [ht]
  have hwrapped : ∀ r : DeviceRequest, r.resolve s.world.wrapper (s.kept k).toShadows
      = r.resolveWrapped s.world.wrapper (s.kept k).toShadows :=
    DeviceRequest.resolve_of_enabled hs _
  refine ⟨fun set data => handsDown_of_data? rfl hs ?_,
    fun buffer layout index data => handsDown_of_data? rfl hs ?_,
    fun buffer layout index data chain => ⟨_, handsDown_of_data? rfl hs ?_,
      fun i layouts hi => Chain.getElem?_blocks_copy_pipelineLayout s.world.wrapper hi⟩⟩
  · rw [hwrapped, DeviceRequest.resolveWrapped, hrebuild]
    rfl
  · rw [hwrapped, DeviceRequest.resolveWrapped, hrebuild]
    rfl
  · rw [hwrapped, DeviceRequest.resolveWrapped, hrebuild]
    rfl

/-! ### Templates along runs -/

/-- **Templates go by the entries that they were created from.**  Take a system that wraps handles
and anything that may happen to it, then the creation of a template on one of its devices, and
anything that may happen after that.

What the devices remember of templates is what their handles stand for, according to the calls
that were made.  If the creation succeeds with a handle `t` that is not null, no later creation
returns it again, and its entries are remembered until a call to the device names it to be
destroyed, and no other entries ever are.  As long as `t` is not named as a handle to go, requests
that go by it go down for the template that the next layer has written, with data that are
rebuilt by its entries. -/
theorem templates_keep_entries [NextLayer σ] (instanceHandle : Handle) (requested : ApiVersion)
    (settings : Settings) (hwrapping : settings.handleWrapping = true) (table : EntryTable)
    (behaviour : Behaviour) (objects : List ValidationObject) (below : σ)
    (before : List (Action σ)) (k : Nat) (type : TemplateType) (sets layout : Handle)
    (entries : AppArray TemplateEntry) (out : Outputs) (after : List (Action σ)) :
    let start := System.start instanceHandle requested settings table behaviour objects below
    let r : DeviceRequest := .create (.updateTemplate type sets layout entries)
    let s₀ := start.run before
    let s₁ := s₀.act (.callDevice k r out)
    let s := s₁.run after
    let T : Template := ⟨type, entries.toList⟩
    (∀ k' h T', (s.kept k').templates.get? h = some T' ↔
      Memo.templates.StandsFor (start.history (before ++ .callDevice k r out :: after)) k' h T') ∧
    ∀ device t rest, s₀.devices[k]? = some device →
      let u := (Device.perform r out).run ⟨device, s₀.world⟩
      u.1.1 = .success → u.1.2.slots = some (t :: rest) → t ≠ 0 →
      s.world.wrapper.map.drawn < drawLimit →
      (∀ y ∈ s₁.history after, ¬ y.Returns t) ∧
        (∀ T', (s.kept k).templates.get? t = some T' ↔ T' = T ∧
          ∀ y ∈ s₁.history after, ¬ (y.device = k ∧ y.request = .destroy .updateTemplate t)) ∧
        ((∀ a ∈ after, t ∉ a.doomed) →
          (s.kept k).templates.get? t = some T ∧
          ∃ real rest', out.slots.map (overlay · (Device.answer r (out.slots.map List.length)
              ⟨device, s₀.world⟩).slots) = some (real :: rest') ∧
            s.GoesBy k t real T) := by
  intro start r s₀ s₁ s T
  have hstart : start.Sound :=
    System.sound_start instanceHandle requested hwrapping table behaviour objects below
  have hs₀ : s₀.Sound := hstart.run before
  have hs₁ : s₁.Sound := hs₀.act _
  have hs : s.Sound := hs₁.run after
  have hrun : start.run (before ++ .callDevice k r out :: after) = s := List.foldl_append
  have hrecalls := Memo.recalls_templates.1 ((Memo.templates.recalls_start instanceHandle requested
    settings table behaviour objects below).run hstart (before ++ .callDevice k r out :: after))
  rw [hrun, List.nil_append] at hrecalls
  refine ⟨hrecalls, ?_⟩
  intro device t rest hdevice u hsuccess hslots hzero hlimit
  -- the creation is in the history, and no later call returns the handle again
  have hmakes : Memo.templates.Makes ⟨k, r, u.1⟩ k t T :=
    ⟨rfl, _, rest, rfl, rfl, hsuccess, hslots⟩
  have hH : start.history (before ++ .callDevice k r out :: after)
      = start.history before ++ ⟨k, r, u.1⟩ :: s₁.history after := by
    rw [System.history_append, System.history, System.happening?_of_device hdevice]
    rfl
  have hfresh : ∀ y ∈ s₁.history after, ¬ y.Returns t :=
    System.not_returns_twice hstart (by rw [hrun]; exact Nat.le_of_lt hlimit) hH hmakes.returns
      hzero
  have hkept : ∀ T', (s.kept k).templates.get? t = some T' ↔ T' = T ∧
      ∀ y ∈ s₁.history after, ¬ Memo.templates.Unmakes y k t := by
    intro T'
    rw [hrecalls k t T', hH]
    exact Memo.standsFor_append hmakes fun y hy a hy' => hfresh y hy hy'.returns
  refine ⟨hfresh, hkept, fun hspared => ?_⟩
  have hlives : (s.kept k).templates.get? t = some T := by
    refine (hkept T).2 ⟨rfl, fun y hy hunmakes => ?_⟩
    obtain ⟨out', hmem⟩ := System.exists_of_mem_history hy
    refine hspared _ hmem ?_
    rw [hunmakes.2]
    exact List.mem_cons_self
  have hlimit₁ : s₁.world.wrapper.map.drawn < drawLimit :=
    Nat.lt_of_le_of_lt (System.drawn_le_run hs₁ after) hlimit
  obtain ⟨real, rest', hreal, hstands⟩ :=
    System.stands_of_create hs₀ hdevice hzero hsuccess hslots hlimit₁
  have htype : ObjectType.updateTemplate ≠ .descriptorSet ∧ ObjectType.updateTemplate ≠ .image :=
    by decide
  have hstands' : s.Stands .updateTemplate t real := hstands.run hs₁ htype hspared hlimit
  have hgoes := System.goesBy_of_kept hs.world.wrapping hlives
  rw [hstands'.unwrap_eq hs.world.wrapping] at hgoes
  exact ⟨hlives, real, rest', hreal, hgoes⟩

/-- A template stands while another one comes and goes.  Its data have a sampler in them. -/
theorem template_beside_another :
    let entry : TemplateEntry := ⟨0, 0, 1, .sampler, 0, 0⟩
    let T : Template := ⟨.descriptorSet, [entry]⟩
    let before : List (Action Scripted) :=
      [.createDevice 0xd000 0xe000 ⟨[.createDescriptorUpdateTemplate,
        .destroyDescriptorUpdateTemplate, .updateDescriptorSetWithTemplate]⟩ []]
    let r : DeviceRequest := .create (.updateTemplate .descriptorSet 0 0 (.elems [entry]))
    let after : List (Action Scripted) :=
      [.callDevice 0 (.create (.updateTemplate .pushDescriptors 0 0 (.elems [])))
          { slots := some [0] },
        .callDevice 0 (.destroy .updateTemplate (idAt 1)) {}]
    let start := System.start 0xa000 0 .default .empty default [] ({} : Scripted)
    let s₀ := start.run before
    let s₁ := s₀.act (.callDevice 0 r { slots := some [0] })
    let s := s₁.run after
    (Settings.default.handleWrapping = true ∧
        (s₀.devices[0]?).map (fun device =>
            let u := (Device.perform r { slots := some [0] }).run ⟨device, s₀.world⟩
            (u.1.1, u.1.2.slots, (Device.answer r (some 1) ⟨device, s₀.world⟩).slots))
          = some (.success, some [idAt 0], [some 0x100000]) ∧
        idAt 0 ≠ 0 ∧ s.world.wrapper.map.drawn < drawLimit ∧ ∀ a ∈ after, idAt 0 ∉ a.doomed) ∧
      (∀ T', (s.kept 0).templates.get? (idAt 1) ≠ some T') ∧
      (∀ y ∈ s₁.history after, ¬ y.Returns (idAt 0)) ∧
      (s.kept 0).templates.get? (idAt 0) = some T ∧ s.GoesBy 0 (idAt 0) 0x100000 T := by
  intro entry T before r after start s₀ s₁ s
  have hwrapping : Settings.default.handleWrapping = true := by decide +kernel
  have hcreated : (s₀.devices[0]?).map (fun device =>
      let u := (Device.perform r { slots := some [0] }).run ⟨device, s₀.world⟩
      (u.1.1, u.1.2.slots, (Device.answer r (some 1) ⟨device, s₀.world⟩).slots))
      = some (.success, some [idAt 0], [some 0x100000]) := by decide +kernel
  have hzero : idAt 0 ≠ 0 := by decide +kernel
  have hlimit : s.world.wrapper.map.drawn < drawLimit := by decide +kernel
  have hspared : ∀ a ∈ after, idAt 0 ∉ a.doomed := by decide +kernel
  have hH : ∃ H o, start.history (before ++ .callDevice 0 r { slots := some [0] } :: after)
      = H ++ [⟨0, .destroy .updateTemplate (idAt 1), o⟩] :=
    ⟨[⟨0, r, .success, { slots := some [idAt 0] }⟩,
      ⟨0, .create (.updateTemplate .pushDescriptors 0 0 (.elems [])), .success,
        { slots := some [idAt 1] }⟩], (.success, {}), by decide +kernel⟩
  -- the run is not looked into any more
  clear_value before after
  obtain ⟨hrecalls, hstays⟩ := templates_keep_entries 0xa000 0 .default hwrapping .empty default []
    ({} : Scripted) before 0 .descriptorSet 0 0 (.elems [entry]) { slots := some [0] } after
  obtain ⟨device, hdevice, houtcome⟩ := Option.map_eq_some_iff.1 hcreated
  obtain ⟨hsuccess, hrest⟩ := Prod.mk.inj houtcome
  obtain ⟨hslots, hanswer⟩ := Prod.mk.inj hrest
  obtain ⟨hfresh, -, hgoes⟩ := hstays device (idAt 0) [] hdevice hsuccess hslots hzero hlimit
  obtain ⟨hkept, real, rest', hreal, hgoes⟩ := hgoes hspared
  refine ⟨⟨hwrapping, hcreated, hzero, hlimit, hspared⟩, fun T' hget => ?_, hfresh, hkept, ?_⟩
  · obtain ⟨H, o, hH⟩ := hH
    have hstands := (hrecalls 0 (idAt 1) T').1 hget
    rw [hH, Memo.standsFor_concat] at hstands
    rcases hstands with ⟨-, info, rest, hcreate, -⟩ | ⟨hsettles, -⟩
    · cases hcreate
    · exact hsettles (.inl ⟨rfl, rfl⟩)
  · have hreal : some [(0x100000 : Handle)] = some (real :: rest') := by
      rw [← hreal]
      show _ = some (overlay [0] (Device.answer r (some 1) ⟨device, s₀.world⟩).slots)
      rw [hanswer]
      rfl
    obtain ⟨rfl, -⟩ := List.cons.inj (Option.some.inj hreal)
    exact hgoes

/-- Layouts behind a block of unknown layout go down as surrogates, and a device to which a
template does not belong hands the data down as they are. -/
theorem templates_elsewhere_and_behind_unknown_blocks :
    let entry : TemplateEntry := ⟨0, 0, 1, .sampler, 0, 0⟩
    let T : Template := ⟨.pushDescriptors, [entry]⟩
    let actions : List (Action Scripted) :=
      [.createDevice 0xd000 0xe000 ⟨[.createDescriptorSetLayout, .createSampler,
          .createDescriptorUpdateTemplate, .cmdPushDescriptorSetWithTemplate2Khr]⟩ [],
        .createDevice 0xd000 0xe100 ⟨[.updateDescriptorSetWithTemplate]⟩ [],
        .callDevice 0 (.create (.descriptorSetLayout (.elems []))) { slots := some [0] },
        .callDevice 0 (.create (.sampler .empty)) { slots := some [0] },
        .callDevice 0 (.create (.updateTemplate .pushDescriptors 0 0 (.elems [entry])))
          { slots := some [0] }]
    let start := System.start 0xa000 0 .default .empty default [] ({} : Scripted)
    let s := start.run actions
    let w := s.world.wrapper
    let blocks : List Block := [.unknown 1000999000, .pipelineLayout (.elems [idAt 0])]
    let data : Blob := (Blob.zeros 24).write 0 (wordBytes (idAt 1))
    let built : Blob := (Blob.zeros 24).write 0 (wordBytes 0x100010)
    (s.kept 0).templates.get? (idAt 2) = some T ∧
      w.unwrap (idAt 0) = 0x100000 ∧ w.unwrap (idAt 2) = 0x100020 ∧
      (T.build w (some data)).value = built ∧ built ≠ data ∧
      (s.act (.callDevice 0 (.pushSetWithTemplate2 0x900 (idAt 2) 0 0 (some data)
          (.ofApp blocks)) {})).world.calls = s.world.calls ++
        [⟨0xe000, .ofDevice (.pushSetWithTemplate2 0x900 0x100020 0 0 (some built)
          (.ofApp blocks)), none⟩] ∧
      (s.act (.callDevice 1 (.updateSetWithTemplate 0 (idAt 2) (some data)) {})).world.calls
        = s.world.calls ++
          [⟨0xe100, .ofDevice (.updateSetWithTemplate 0 0x100020 (some data)), none⟩] := by
  decide +kernel

end HandleLayer
